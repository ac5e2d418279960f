import DeviceRig.Json.Tagged
import DeviceRig.Proofs.Json.Values
import Mathlib.Algebra.Group.Nat.Defs

/-!
# Tagged data

An object whose first member is the tag is read as its variant and its other
members, and what every field of a record keeps true of a draft is true of the
filled one.
-/
namespace DeviceRig.Json

/-- How many more brackets may open inside an object that is a whole text. -/
def innerDepth : Nat :=
  maxDepth - 1

theorem fitsInteger_natCast {n : Nat} (h : n < 2 ^ 64) : fitsInteger n = true := by
  simp only [fitsInteger, Bool.and_eq_true, decide_eq_true_eq]
  omega

theorem Conversion.natural_natCast {range : IntegerRange} {n : Nat} (hLow : range.low ≤ 0)
    (hHigh : (n : Int) ≤ range.high) : natural range (.integer n) = .ok n := by
  have hRange : range.low ≤ (n : Int) ∧ (n : Int) ≤ range.high :=
    ⟨Int.le_trans hLow (Int.natCast_nonneg n), hHigh⟩
  have hInteger : integer range (.integer n) = .ok (n : Int) := if_pos hRange
  rw [natural, hInteger]
  rfl

namespace Reader

theorem reads_start {byte : UInt8} (hSpace : isSpace byte = false) (rest : List UInt8) :
    Reads start (byte :: rest) byte (byte :: rest) :=
  (reads_skipBlanks hSpace rest).bind (reads_pure byte _)

theorem reads_tag {known : List String} {kind : String} (hKnown : kind ∈ known)
    (rest : List UInt8) : Reads (tag known) (34 :: quotedBytes kind ++ rest) kind rest := by
  refine (reads_start rfl _).bind ((reads_advance 34 _).bind ?_)
  refine Reads.placed ((reads_text kind rest).bind ?_)
  rw [if_pos (List.elem_eq_true_of_mem hKnown)]
  exact reads_pure kind rest

theorem reads_taggedMembers_more {known : List String} {kind : String} {depth : Nat}
    (list : List (String × Value)) (hNames : ∀ member ∈ list, member.1 ≠ tagName)
    (hMembers : ∀ member ∈ list, Value.Plain depth member.2) (found : Array (String × Value))
    (rest : List UInt8) (fuel : Nat) (hFuel : list.length < fuel) :
    Reads (taggedMembers known depth false (some kind) found fuel)
      (list.flatMap (fun member => 44 :: memberBytes member) ++ 125 :: rest)
      (kind, .members (found.toList ++ list)) (125 :: rest) := by
  induction list generalizing found fuel with
  | nil =>
    obtain ⟨fuel, rfl⟩ := Nat.exists_eq_succ_of_ne_zero (Nat.ne_of_gt hFuel)
    rw [List.append_nil]
    exact (reads_nextName_end false rest).bind (reads_pure _ _)
  | cons member list ih =>
    obtain ⟨name, value⟩ := member
    obtain ⟨fuel, rfl⟩ := Nat.exists_eq_succ_of_ne_zero (Nat.ne_of_gt (Nat.zero_lt_of_lt hFuel))
    have hTakes := takes_rawValue depth value (hMembers (name, value) List.mem_cons_self)
    have hRest := hTakes.2 _ (endsNumber_members list rest)
    have hName : name ≠ tagName := hNames (name, value) List.mem_cons_self
    have hFound : found.toList ++ (name, value) :: list =
        (found.push (name, value)).toList ++ list := by simp
    rw [List.flatMap_cons, List.append_assoc, List.cons_append, hFound, memberBytes,
      List.append_assoc]
    refine (reads_nextName_more name _).bind ?_
    dsimp only
    rw [if_neg hName]
    refine (reads_colon _).bind (hRest.bind ?_)
    exact ih (fun other hOther => hNames other (List.mem_cons_of_mem _ hOther))
      (fun other hOther => hMembers other (List.mem_cons_of_mem _ hOther)) _ fuel
      (Nat.lt_of_succ_lt_succ hFuel)

theorem valueBytes_tagged (kind : String) (list : List (String × Value)) :
    valueBytes (.object ((tagName, .text kind) :: list)) =
      123 :: (34 :: quotedBytes tagName ++ (58 :: (34 :: quotedBytes kind ++
        (list.flatMap (fun member => 44 :: memberBytes member) ++ [125])))) := by
  rw [valueBytes_object, List.map_cons, commaBytes, List.flatMap_map, memberBytes,
    valueBytes_text]
  simp

/-- An object that names its variant first is read as the variant and the other members. -/
theorem reads_tagged (expected : String) {known : List String} {kind : String}
    (hKnown : kind ∈ known) (list : List (String × Value))
    (hNames : ∀ member ∈ list, member.1 ≠ tagName)
    (hMembers : ∀ member ∈ list, Value.Plain innerDepth member.2) :
    Reads (tagged expected known) (valueBytes (.object ((tagName, .text kind) :: list)))
      (kind, .members list) [] := by
  have hLoop : ∀ fuel, list.length + 1 < fuel →
      Reads (taggedMembers known innerDepth true none #[] fuel)
        (34 :: quotedBytes tagName ++ (58 :: (34 :: quotedBytes kind ++
          (list.flatMap (fun member => 44 :: memberBytes member) ++ [125]))))
        (kind, .members list) [125] := by
    intro fuel hFuel
    obtain ⟨fuel, rfl⟩ := Nat.exists_eq_succ_of_ne_zero (Nat.ne_of_gt (Nat.zero_lt_of_lt hFuel))
    refine (reads_nextName_first tagName _).bind ((reads_colon _).bind ?_)
    refine (reads_tag hKnown _).bind ?_
    exact reads_taggedMembers_more list hNames hMembers #[] [] fuel (by omega)
  have hLength := length_le_flatMap memberBytes list
  rw [valueBytes_tagged]
  refine (reads_start rfl _).bind ((reads_advance 123 _).bind ?_)
  refine Reads.placed (Reads.closedBy ?_ (reads_endObject []))
  refine reads_get fun peeked => hLoop _ ?_
  simp only [List.length_cons, List.length_append]
  omega

theorem run_tagged {α : Type} (expected : String) {known : List String}
    (ofContent : String → Content → Except Mismatch α) {kind : String} (hKnown : kind ∈ known)
    (list : List (String × Value)) (hNames : ∀ member ∈ list, member.1 ≠ tagName)
    (hMembers : ∀ member ∈ list, Value.Plain innerDepth member.2) {value : α}
    (hContent : ofContent kind (.members list) = .ok value) (source : Source) :
    (only do
      let (kind, content) ← tagged expected known
      accept (ofContent kind content)).run source
        (valueBytes (.object ((tagName, .text kind) :: list))) = .ok value := by
  refine Reads.run_only ((reads_tagged expected hKnown list hNames hMembers).bind ?_) source
  dsimp only
  rw [hContent]
  exact reads_pure value []

end Reader

namespace Content

variable {Draft : Type}

theorem setMembers_field {fields : List (VariantField Draft)} {draft next : Draft}
    {field : VariantField Draft} {name : String} {value : Value}
    (hFound : (fields.find? fun field => field.name = name) = some field)
    (hUnset : field.isSet draft = false) (hSet : field.set value draft = .ok next)
    (rest : List (String × Value)) :
    setMembers fields draft ((name, value) :: rest) = setMembers fields next rest := by
  rw [setMembers, hFound]
  simp only [hUnset, hSet, Bool.false_eq_true, if_false]

/-- What holds of the blank draft and is kept by every field holds of a filled draft. -/
theorem setMembers_keeps {fields : List (VariantField Draft)} {holds : Draft → Prop}
    (hField : ∀ field ∈ fields, ∀ value draft filled, field.set value draft = .ok filled →
      holds draft → holds filled) (found : List (String × Value)) (draft filled : Draft)
    (hDraft : holds draft) (h : setMembers fields draft found = .ok filled) : holds filled := by
  induction found generalizing draft with
  | nil =>
    rw [setMembers] at h
    split at h
    · cases h
    · cases h
      exact hDraft
  | cons member rest ih =>
    obtain ⟨name, value⟩ := member
    rw [setMembers] at h
    split at h
    · exact ih draft hDraft h
    · rename_i field hFound
      split at h
      · cases h
      · split at h
        · cases h
        · rename_i next hNext
          have hNextHolds := hField field (List.mem_of_find?_eq_some hFound) value draft next hNext
            hDraft
          exact ih next hNextHolds h

theorem setItems_keeps {fields : List (VariantField Draft)} {holds : Draft → Prop}
    (hField : ∀ field ∈ fields, ∀ value draft filled, field.set value draft = .ok filled →
      holds draft → holds filled) (expected : String) (index : Nat) (found : List Value)
    (draft filled : Draft) (hDraft : holds draft)
    (h : setItems expected index draft fields found = .ok filled) : holds filled := by
  induction fields generalizing index found draft with
  | nil =>
    cases found with
    | nil =>
      cases h
      exact hDraft
    | cons value rest => cases h
  | cons field fields ih =>
    cases found with
    | nil =>
      rw [setItems] at h
      split at h
      · cases h
      · cases h
        exact hDraft
    | cons value rest =>
      rw [setItems] at h
      split at h
      · cases h
      · rename_i next hNext
        exact ih (fun other hOther => hField other (List.mem_cons_of_mem field hOther))
          (index + 1) rest next (hField field List.mem_cons_self value draft next hNext hDraft) h

theorem fill_keeps {fields : List (VariantField Draft)} (holds : Draft → Prop)
    (hField : ∀ field ∈ fields, ∀ value draft filled, field.set value draft = .ok filled →
      holds draft → holds filled) {variant : String} {blank filled : Draft} {content : Content}
    (hBlank : holds blank) (h : content.fill variant fields blank = .ok filled) :
    holds filled := by
  cases content with
  | members found => exact setMembers_keeps hField found blank filled hBlank h
  | items found => exact setItems_keeps hField _ 0 found blank filled hBlank h

end Content

end DeviceRig.Json
