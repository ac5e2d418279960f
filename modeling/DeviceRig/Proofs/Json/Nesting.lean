import DeviceRig.Proofs.Json.Tagged
import Mathlib.Data.List.Basic

/-!
# Values that nest too deep

A printed value is refused by a reader that has fewer brackets left than the
value opens, and for no other reason. The induction is on the brackets left, as
for the values that are read: the items before the first one that nests too
deep are taken, and that one is not.
-/
namespace DeviceRig.Json

namespace Value

/-- Whether the numbers of a value are integers of at most 64 bits and its objects name every member
once, however deep it nests. -/
inductive Exact : Value → Prop where
  | null : Exact .null
  | bool (value : Bool) : Exact (.bool value)
  | text (value : String) : Exact (.text value)
  | integer {value : Int} (hFits : fitsInteger value = true) : Exact (.number (.integer value))
  | list {items : List Value} (hItems : ∀ item ∈ items, Exact item) : Exact (.list items)
  | object {members : List (String × Value)} (hNames : (Members.names members).Nodup)
      (hMembers : ∀ member ∈ members, Exact member.2) : Exact (.object members)

mutual

def nesting : Value → Nat
  | .null | .bool _ | .number _ | .text _ => 0
  | .list items => itemsNesting items + 1
  | .object members => membersNesting members + 1

def itemsNesting : List Value → Nat
  | [] => 0
  | item :: rest => max (nesting item) (itemsNesting rest)

def membersNesting : List (String × Value) → Nat
  | [] => 0
  | (_, value) :: rest => max (nesting value) (membersNesting rest)

end

theorem lt_itemsNesting {depth : Nat} (items : List Value) :
    depth < itemsNesting items ↔ ∃ item ∈ items, depth < item.nesting := by
  induction items with
  | nil => simp [itemsNesting]
  | cons item rest ih =>
    have hMax : depth < max item.nesting (itemsNesting rest) ↔
        depth < item.nesting ∨ depth < itemsNesting rest := by omega
    rw [itemsNesting, hMax, ih, List.exists_mem_cons_iff]

theorem lt_membersNesting {depth : Nat} (members : List (String × Value)) :
    depth < membersNesting members ↔ ∃ member ∈ members, depth < member.2.nesting := by
  induction members with
  | nil => simp [membersNesting]
  | cons member rest ih =>
    have hMax : depth < max member.2.nesting (membersNesting rest) ↔
        depth < member.2.nesting ∨ depth < membersNesting rest := by omega
    rw [membersNesting, hMax, ih, List.exists_mem_cons_iff]

theorem lt_nesting_list {depth : Nat} (items : List Value) :
    depth + 1 < nesting (.list items) ↔ ∃ item ∈ items, depth < item.nesting := by
  rw [nesting, Nat.add_lt_add_iff_right, lt_itemsNesting]

theorem lt_nesting_object {depth : Nat} (members : List (String × Value)) :
    depth + 1 < nesting (.object members) ↔ ∃ member ∈ members, depth < member.2.nesting := by
  rw [nesting, Nat.add_lt_add_iff_right, lt_membersNesting]

theorem Exact.plain {depth : Nat} {value : Value} (h : value.Exact)
    (hNesting : value.nesting ≤ depth) : value.Plain depth := by
  induction depth generalizing value with
  | zero =>
    cases h with
    | null | bool | text => trivial
    | integer hFits => exact hFits
    | list | object =>
      rw [nesting] at hNesting
      cases hNesting
  | succ depth ih =>
    cases h with
    | null | bool | text => trivial
    | integer hFits => exact hFits
    | list hItems =>
      rw [← Nat.not_lt, lt_nesting_list] at hNesting
      intro item hItem
      exact ih (hItems item hItem) (Nat.le_of_not_lt fun hDeep => hNesting ⟨item, hItem, hDeep⟩)
    | object hNames hMembers =>
      rw [← Nat.not_lt, lt_nesting_object] at hNesting
      refine ⟨hNames, fun member hMember => ?_⟩
      exact ih (hMembers member hMember)
        (Nat.le_of_not_lt fun hDeep => hNesting ⟨member, hMember, hDeep⟩)

end Value

namespace Reader

variable {α β : Type}

def Fails (reader : Reader α) (input : List UInt8) (cause : Cause) : Prop :=
  ∀ peeked, ∃ place after, reader ⟨input, peeked⟩ = (.error ⟨cause, place⟩, after)

theorem Fails.bind {reader : Reader α} {input : List UInt8} {cause : Cause}
    (h : Fails reader input cause) (next : α → Reader β) :
    Fails (reader >>= next) input cause := by
  intro peeked
  obtain ⟨place, after, hFailure⟩ := h peeked
  refine ⟨place, after, ?_⟩
  rw [bind_apply, hFailure]

theorem Reads.bind_fails {reader : Reader α} {next : α → Reader β} {input middle : List UInt8}
    {found : α} {cause : Cause} (hReader : Reads reader input found middle)
    (hNext : Fails (next found) middle cause) : Fails (reader >>= next) input cause := by
  intro peeked
  obtain ⟨middlePeeked, hFound⟩ := hReader peeked
  obtain ⟨place, after, hFailure⟩ := hNext middlePeeked
  refine ⟨place, after, ?_⟩
  rw [bind_apply, hFound]
  exact hFailure

theorem fails_get {next : Cursor → Reader β} {input : List UInt8} {cause : Cause}
    (h : ∀ peeked, Fails (next ⟨input, peeked⟩) input cause) :
    Fails (get >>= next) input cause :=
  fun peeked => h peeked peeked

theorem fails_failAhead (cause : Cause) (input : List UInt8) :
    Fails (failAhead cause : Reader α) input cause :=
  fun _ => ⟨_, _, rfl⟩

theorem Fails.placed {reader : Reader α} {input : List UInt8} {cause : Cause}
    (h : Fails reader input cause) : Fails (placed reader) input cause := by
  intro peeked
  obtain ⟨place, after, hFailure⟩ := h peeked
  cases place with
  | none => exact ⟨some after.place, after, by rw [Reader.placed, hFailure]⟩
  | some place => exact ⟨some place, after, by simp only [Reader.placed, hFailure]⟩

theorem Fails.closedBy {inside : Reader α} {input : List UInt8} {cause : Cause}
    (h : Fails inside input cause) (close : Reader Unit) :
    Fails (closedBy inside close) input cause := by
  intro peeked
  obtain ⟨place, after, hFailure⟩ := h peeked
  exact ⟨place, (close after).2, by simp only [Reader.closedBy, hFailure]⟩

theorem Fails.run_only {reader : Reader α} {text : List UInt8} {cause : Cause}
    (h : Fails reader text cause) (source : Source) :
    ∃ position, (only reader).run source text = .error ⟨cause, position⟩ := by
  have hOnly : Fails (only reader) text cause := h.bind _
  obtain ⟨place, after, hFailure⟩ := hOnly false
  exact ⟨_, by rw [run, hFailure]⟩

/-- From some bytes, which begin like a value, a reader finds too many brackets open, whatever
stands behind them. -/
def Refuses (reader : Reader α) (bytes : List UInt8) : Prop :=
  (∃ first more, bytes = first :: more ∧ isSpace first = false ∧ first ≠ 93) ∧
    ∀ rest, Fails reader (bytes ++ rest) .tooDeep

theorem fails_itemsFrom_more {reader : Reader α} {code : α → List UInt8} (list : List α)
    (hItems : ∀ item ∈ list, Takes reader (code item) item ∨ Refuses reader (code item))
    (hDeep : ∃ item ∈ list, Refuses reader (code item)) (found : Array α) (rest : List UInt8)
    (fuel : Nat) (hFuel : list.length < fuel) :
    Fails (itemsFrom reader false found fuel)
      (list.flatMap (fun item => 44 :: code item) ++ 93 :: rest) .tooDeep := by
  induction list generalizing found fuel with
  | nil =>
    obtain ⟨item, hItem, -⟩ := hDeep
    cases hItem
  | cons item list ih =>
    obtain ⟨fuel, rfl⟩ := Nat.exists_eq_succ_of_ne_zero (Nat.ne_of_gt (Nat.zero_lt_of_lt hFuel))
    rw [List.flatMap_cons, List.append_assoc, List.cons_append]
    by_cases hItem : Refuses reader (code item)
    · obtain ⟨⟨first, more, hCode, hSpace, hEnd⟩, hFails⟩ := hItem
      have hRest := hFails (list.flatMap (fun item => 44 :: code item) ++ 93 :: rest)
      rw [hCode] at hRest ⊢
      exact (reads_nextItem_more hSpace hEnd _).bind_fails (hRest.bind _)
    · obtain ⟨⟨first, more, hCode, hSpace, hEnd⟩, hReads⟩ :=
        (hItems item List.mem_cons_self).resolve_right hItem
      have hRest := hReads _ (endsNumber_items code list rest)
      have hLater := List.or_exists_of_exists_mem_cons hDeep
      rw [hCode] at hRest ⊢
      refine (reads_nextItem_more hSpace hEnd _).bind_fails (hRest.bind_fails ?_)
      exact ih (fun other hOther => hItems other (List.mem_cons_of_mem item hOther))
        (hLater.resolve_left hItem) _ fuel (Nat.lt_of_succ_lt_succ hFuel)

theorem fails_items {reader : Reader α} {code : α → List UInt8} (list : List α)
    (hItems : ∀ item ∈ list, Takes reader (code item) item ∨ Refuses reader (code item))
    (hDeep : ∃ item ∈ list, Refuses reader (code item)) (rest : List UInt8) :
    Fails (items reader true) (commaBytes (list.map code) ++ 93 :: rest) .tooDeep := by
  have hLoop : ∀ fuel, (commaBytes (list.map code) ++ 93 :: rest).length < fuel →
      Fails (itemsFrom reader true #[] fuel) (commaBytes (list.map code) ++ 93 :: rest)
        .tooDeep := by
    intro fuel hFuel
    obtain ⟨fuel, rfl⟩ := Nat.exists_eq_succ_of_ne_zero (Nat.ne_of_gt (Nat.zero_lt_of_lt hFuel))
    cases list with
    | nil =>
      obtain ⟨item, hItem, -⟩ := hDeep
      cases hItem
    | cons item list =>
      have hLength := length_le_flatMap code list
      rw [List.map_cons, commaBytes, List.flatMap_map, List.append_assoc] at hFuel ⊢
      rw [List.length_append, List.length_append] at hFuel
      by_cases hItem : Refuses reader (code item)
      · obtain ⟨⟨first, more, hCode, hSpace, hEnd⟩, hFails⟩ := hItem
        have hRest := hFails (list.flatMap (fun item => 44 :: code item) ++ 93 :: rest)
        rw [hCode] at hRest ⊢
        exact (reads_nextItem_first hSpace hEnd _).bind_fails (hRest.bind _)
      · obtain ⟨⟨first, more, hCode, hSpace, hEnd⟩, hReads⟩ :=
          (hItems item List.mem_cons_self).resolve_right hItem
        have hRest := hReads _ (endsNumber_items code list rest)
        have hLater := List.or_exists_of_exists_mem_cons hDeep
        rw [hCode] at hRest hFuel ⊢
        rw [List.length_cons, List.length_cons] at hFuel
        refine (reads_nextItem_first hSpace hEnd _).bind_fails (hRest.bind_fails ?_)
        exact fails_itemsFrom_more list
          (fun other hOther => hItems other (List.mem_cons_of_mem item hOther))
          (hLater.resolve_left hItem) _ rest fuel (by omega)
  refine fails_get fun peeked => ?_
  exact (hLoop _ (Nat.lt_succ_self _)).bind _

theorem fails_membersFrom_more {reader : Reader Value} (list : List (String × Value))
    (hMembers : ∀ member ∈ list, Takes reader (valueBytes member.2) member.2 ∨
      Refuses reader (valueBytes member.2))
    (hDeep : ∃ member ∈ list, Refuses reader (valueBytes member.2))
    (found : Array (String × Value)) (rest : List UInt8) (fuel : Nat)
    (hFuel : list.length < fuel) :
    Fails (membersFrom reader false found fuel)
      (list.flatMap (fun member => 44 :: memberBytes member) ++ 125 :: rest) .tooDeep := by
  induction list generalizing found fuel with
  | nil =>
    obtain ⟨member, hMember, -⟩ := hDeep
    cases hMember
  | cons member list ih =>
    obtain ⟨name, value⟩ := member
    obtain ⟨fuel, rfl⟩ := Nat.exists_eq_succ_of_ne_zero (Nat.ne_of_gt (Nat.zero_lt_of_lt hFuel))
    rw [List.flatMap_cons, List.append_assoc, List.cons_append, memberBytes, List.append_assoc]
    refine (reads_nextName_more name _).bind_fails ((reads_colon _).bind_fails ?_)
    by_cases hMember : Refuses reader (valueBytes value)
    · exact (hMember.2 _).bind _
    · have hTakes := (hMembers (name, value) List.mem_cons_self).resolve_right hMember
      have hLater := List.or_exists_of_exists_mem_cons hDeep
      refine (hTakes.2 _ (endsNumber_members list rest)).bind_fails ?_
      exact ih (fun other hOther => hMembers other (List.mem_cons_of_mem (name, value) hOther))
        (hLater.resolve_left hMember) _ fuel (Nat.lt_of_succ_lt_succ hFuel)

theorem fails_members {reader : Reader Value} (list : List (String × Value))
    (hMembers : ∀ member ∈ list, Takes reader (valueBytes member.2) member.2 ∨
      Refuses reader (valueBytes member.2))
    (hDeep : ∃ member ∈ list, Refuses reader (valueBytes member.2)) (rest : List UInt8) :
    Fails (members reader) (commaBytes (list.map memberBytes) ++ 125 :: rest) .tooDeep := by
  have hLoop : ∀ fuel, (commaBytes (list.map memberBytes) ++ 125 :: rest).length < fuel →
      Fails (membersFrom reader true #[] fuel) (commaBytes (list.map memberBytes) ++ 125 :: rest)
        .tooDeep := by
    intro fuel hFuel
    obtain ⟨fuel, rfl⟩ := Nat.exists_eq_succ_of_ne_zero (Nat.ne_of_gt (Nat.zero_lt_of_lt hFuel))
    cases list with
    | nil =>
      obtain ⟨member, hMember, -⟩ := hDeep
      cases hMember
    | cons member list =>
      obtain ⟨name, value⟩ := member
      have hLength := length_le_flatMap memberBytes list
      rw [List.map_cons, commaBytes, List.flatMap_map, List.append_assoc, memberBytes,
        List.append_assoc] at hFuel ⊢
      rw [List.length_append, List.length_append, List.length_append, List.length_cons] at hFuel
      refine (reads_nextName_first name _).bind_fails ((reads_colon _).bind_fails ?_)
      by_cases hMember : Refuses reader (valueBytes value)
      · exact (hMember.2 _).bind _
      · have hTakes := (hMembers (name, value) List.mem_cons_self).resolve_right hMember
        have hLater := List.or_exists_of_exists_mem_cons hDeep
        refine (hTakes.2 _ (endsNumber_members list rest)).bind_fails ?_
        exact fails_membersFrom_more list
          (fun other hOther => hMembers other (List.mem_cons_of_mem (name, value) hOther))
          (hLater.resolve_left hMember) _ rest fuel (by omega)
  refine fails_get fun peeked => ?_
  exact (hLoop _ (Nat.lt_succ_self _)).bind _

theorem fails_valueWith {list object : Reader Value} {first : UInt8} {input : List UInt8}
    {cause : Cause} (hSpace : isSpace first = false)
    (h : Fails (if first = 91 then list else if first = 123 then object else scalar first)
      (first :: input) cause) :
    Fails (valueWith list object) (first :: input) cause :=
  (reads_skipBlanks hSpace input).bind_fails h

theorem refuses_rawValue (depth : Nat) (value : Value) (hExact : value.Exact)
    (hDeep : depth < value.nesting) : Refuses (rawValue depth) (valueBytes value) := by
  induction depth generalizing value with
  | zero =>
    cases hExact with
    | null | bool | text | integer =>
      rw [Value.nesting] at hDeep
      cases hDeep
    | list hItems =>
      rw [valueBytes_list]
      exact ⟨⟨91, _, rfl, rfl, by decide⟩, fun rest => fails_valueWith rfl (fails_failAhead _ _)⟩
    | object hNames hMembers =>
      rw [valueBytes_object]
      exact ⟨⟨123, _, rfl, rfl, by decide⟩, fun rest => fails_valueWith rfl (fails_failAhead _ _)⟩
  | succ depth ih =>
    -- With one bracket less every value is either taken or, by induction, refused.
    have hEither : ∀ inner : Value, inner.Exact → Takes (rawValue depth) (valueBytes inner) inner ∨
        Refuses (rawValue depth) (valueBytes inner) := by
      intro inner hInner
      rcases Nat.lt_or_ge depth inner.nesting with hMore | hFits
      · exact .inr (ih inner hInner hMore)
      · exact .inl (takes_rawValue depth inner (hInner.plain hFits))
    cases hExact with
    | null | bool | text | integer =>
      rw [Value.nesting] at hDeep
      cases hDeep
    | @list items hItems =>
      obtain ⟨item, hItem, hMore⟩ := (Value.lt_nesting_list items).mp hDeep
      rw [valueBytes_list]
      refine ⟨⟨91, _, rfl, rfl, by decide⟩, fun rest => ?_⟩
      have hFails := fails_items items (fun item hItem => hEither item (hItems item hItem))
        ⟨item, hItem, ih item (hItems item hItem) hMore⟩ rest
      rw [List.append_assoc]
      exact fails_valueWith rfl ((reads_advance 91 _).bind_fails
        ((hFails.closedBy endList).bind _))
    | @object members hNames hMembers =>
      obtain ⟨member, hMember, hMore⟩ := (Value.lt_nesting_object members).mp hDeep
      rw [valueBytes_object]
      refine ⟨⟨123, _, rfl, rfl, by decide⟩, fun rest => ?_⟩
      have hFails := fails_members members
        (fun member hMember => hEither member.2 (hMembers member hMember))
        ⟨member, hMember, ih member.2 (hMembers member hMember) hMore⟩ rest
      rw [List.append_assoc]
      exact fails_valueWith rfl ((reads_advance 123 _).bind_fails
        ((hFails.closedBy endObject).bind _))

theorem fails_taggedMembers_more {known : List String} {kind : String} {depth : Nat}
    (list : List (String × Value)) (hNames : ∀ member ∈ list, member.1 ≠ tagName)
    (hMembers : ∀ member ∈ list, member.2.Exact)
    (hDeep : ∃ member ∈ list, depth < member.2.nesting) (found : Array (String × Value))
    (rest : List UInt8) (fuel : Nat) (hFuel : list.length < fuel) :
    Fails (taggedMembers known depth false (some kind) found fuel)
      (list.flatMap (fun member => 44 :: memberBytes member) ++ 125 :: rest) .tooDeep := by
  induction list generalizing found fuel with
  | nil =>
    obtain ⟨member, hMember, -⟩ := hDeep
    cases hMember
  | cons member list ih =>
    obtain ⟨name, value⟩ := member
    obtain ⟨fuel, rfl⟩ := Nat.exists_eq_succ_of_ne_zero (Nat.ne_of_gt (Nat.zero_lt_of_lt hFuel))
    have hExact : value.Exact := hMembers (name, value) List.mem_cons_self
    have hName : name ≠ tagName := hNames (name, value) List.mem_cons_self
    rw [List.flatMap_cons, List.append_assoc, List.cons_append, memberBytes, List.append_assoc]
    refine (reads_nextName_more name _).bind_fails ?_
    dsimp only
    rw [if_neg hName]
    refine (reads_colon _).bind_fails ?_
    rcases Nat.lt_or_ge depth value.nesting with hMore | hFits
    · exact ((refuses_rawValue depth value hExact hMore).2 _).bind _
    · have hTakes := takes_rawValue depth value (hExact.plain hFits)
      have hLater := List.or_exists_of_exists_mem_cons hDeep
      refine (hTakes.2 _ (endsNumber_members list rest)).bind_fails ?_
      exact ih (fun other hOther => hNames other (List.mem_cons_of_mem _ hOther))
        (fun other hOther => hMembers other (List.mem_cons_of_mem _ hOther))
        (hLater.resolve_left (Nat.not_lt.mpr hFits)) _ fuel (Nat.lt_of_succ_lt_succ hFuel)

/-- An object that names its variant first fails with its first other member that nests too deep. -/
theorem fails_tagged (expected : String) {known : List String} {kind : String}
    (hKnown : kind ∈ known) (list : List (String × Value))
    (hNames : ∀ member ∈ list, member.1 ≠ tagName) (hMembers : ∀ member ∈ list, member.2.Exact)
    (hDeep : ∃ member ∈ list, innerDepth < member.2.nesting) :
    Fails (tagged expected known) (valueBytes (.object ((tagName, .text kind) :: list)))
      .tooDeep := by
  have hLoop : ∀ fuel, list.length + 1 < fuel →
      Fails (taggedMembers known innerDepth true none #[] fuel)
        (34 :: quotedBytes tagName ++ (58 :: (34 :: quotedBytes kind ++
          (list.flatMap (fun member => 44 :: memberBytes member) ++ [125])))) .tooDeep := by
    intro fuel hFuel
    obtain ⟨fuel, rfl⟩ := Nat.exists_eq_succ_of_ne_zero (Nat.ne_of_gt (Nat.zero_lt_of_lt hFuel))
    refine (reads_nextName_first tagName _).bind_fails ((reads_colon _).bind_fails ?_)
    refine (reads_tag hKnown _).bind_fails ?_
    exact fails_taggedMembers_more list hNames hMembers hDeep #[] [] fuel (by omega)
  have hLength := length_le_flatMap memberBytes list
  rw [valueBytes_tagged]
  refine (reads_start rfl _).bind_fails ((reads_advance 123 _).bind_fails ?_)
  refine Fails.placed (Fails.closedBy ?_ endObject)
  refine fails_get fun peeked => hLoop _ ?_
  simp only [List.length_cons, List.length_append]
  omega

theorem run_tagged_tooDeep {α : Type} (expected : String) {known : List String}
    (ofContent : String → Content → Except Mismatch α) {kind : String} (hKnown : kind ∈ known)
    (list : List (String × Value)) (hNames : ∀ member ∈ list, member.1 ≠ tagName)
    (hMembers : ∀ member ∈ list, member.2.Exact)
    (hDeep : ∃ member ∈ list, innerDepth < member.2.nesting) (source : Source) :
    ∃ position, (only do
      let (kind, content) ← tagged expected known
      accept (ofContent kind content)).run source
        (valueBytes (.object ((tagName, .text kind) :: list))) = .error ⟨.tooDeep, position⟩ :=
  ((fails_tagged expected hKnown list hNames hMembers hDeep).bind _).run_only source

end Reader

end DeviceRig.Json
