import DeviceRig.Proofs.Json.Integers
import DeviceRig.Proofs.Json.Members
import DeviceRig.Proofs.Json.Texts

/-!
# Printed values

A value without decimals whose objects name every member once is read back
from its compact text if it nests no deeper than allowed. The induction is on
the depth, as in the reader.
-/
namespace DeviceRig.Json

/-- Whether a value has integers of at most 64 bits for numbers, names every member of an object
once and nests no deeper than so many brackets. -/
def Value.Plain : Nat → Value → Prop
  | _, .null | _, .bool _ | _, .text _ => True
  | _, .number (.integer value) => fitsInteger value = true
  | _, .number (.decimal _) => False
  | 0, .list _ | 0, .object _ => False
  | depth + 1, .list items => ∀ item ∈ items, Value.Plain depth item
  | depth + 1, .object members =>
    (Members.names members).Nodup ∧ ∀ member ∈ members, Value.Plain depth member.2

def valueBytes (value : Value) : List UInt8 :=
  Utf8.bytes value.compact

def memberBytes (member : String × Value) : List UInt8 :=
  34 :: Reader.quotedBytes member.1 ++ 58 :: valueBytes member.2

def commaBytes : List (List UInt8) → List UInt8
  | [] => []
  | first :: rest => first ++ rest.flatMap fun part => 44 :: part

@[simp]
theorem bytes_comma : Utf8.bytes "," = [44] := Utf8.bytes_of_toList rfl

@[simp]
theorem bytes_colon : Utf8.bytes ":" = [58] := Utf8.bytes_of_toList rfl

@[simp]
theorem bytes_openList : Utf8.bytes "[" = [91] := Utf8.bytes_of_toList rfl

@[simp]
theorem bytes_closeList : Utf8.bytes "]" = [93] := Utf8.bytes_of_toList rfl

@[simp]
theorem bytes_openObject : Utf8.bytes "\x7b" = [123] := Utf8.bytes_of_toList rfl

@[simp]
theorem bytes_closeObject : Utf8.bytes "\x7d" = [125] := Utf8.bytes_of_toList rfl

@[simp]
theorem bytes_commaSeparated (texts : List String) :
    Utf8.bytes (commaSeparated texts) = commaBytes (texts.map Utf8.bytes) := by
  cases texts with
  | nil => exact Utf8.bytes_of_toList rfl
  | cons first rest =>
    rw [commaSeparated, List.map_cons, commaBytes]
    induction rest generalizing first with
    | nil => exact (List.append_nil _).symm
    | cons part rest ih =>
      rw [List.foldl_cons, ih]
      simp

@[simp]
theorem compactItems_eq (items : List Value) :
    Value.compactItems items = items.map Value.compact := by
  induction items with
  | nil => rw [Value.compactItems, List.map_nil]
  | cons item rest ih => rw [Value.compactItems, List.map_cons, ih]

@[simp]
theorem compactMembers_eq (members : List (String × Value)) :
    Value.compactMembers members =
      members.map fun member => printText member.1 ++ ":" ++ member.2.compact := by
  induction members with
  | nil => rw [Value.compactMembers, List.map_nil]
  | cons member rest ih =>
    obtain ⟨name, value⟩ := member
    rw [Value.compactMembers, List.map_cons, ih]

theorem valueBytes_text (text : String) :
    valueBytes (.text text) = 34 :: Reader.quotedBytes text := by
  rw [valueBytes, Value.compact, Reader.bytes_printText]

@[simp]
theorem valueBytes_list (items : List Value) :
    valueBytes (.list items) = 91 :: commaBytes (items.map valueBytes) ++ [93] := by
  have hItems : items.map valueBytes = items.map (Utf8.bytes ∘ Value.compact) := rfl
  simp [valueBytes, Value.compact, hItems]

@[simp]
theorem valueBytes_object (members : List (String × Value)) :
    valueBytes (.object members) = 123 :: commaBytes (members.map memberBytes) ++ [125] := by
  have hMember : ∀ member : String × Value,
      Utf8.bytes (printText member.1 ++ ":" ++ member.2.compact) = memberBytes member := by
    intro member
    simp [memberBytes, valueBytes]
  simp only [valueBytes, Value.compact, Utf8.bytes_append, bytes_openObject, bytes_closeObject,
    bytes_commaSeparated, compactMembers_eq, List.map_map]
  simp only [Function.comp_def, hMember]
  rfl

namespace Reader

/-- From some bytes, which begin like a value, a reader takes a value, whatever stands behind them
and does not go on with a number. -/
def Takes {α : Type} (reader : Reader α) (bytes : List UInt8) (value : α) : Prop :=
  (∃ first more, bytes = first :: more ∧ isSpace first = false ∧ first ≠ 93) ∧
    ∀ rest, EndsNumber rest → Reads reader (bytes ++ rest) value rest

theorem endsNumber_cons {byte : UInt8} (rest : List UInt8)
    (h : isDigit byte = false ∧ byte ≠ 46 ∧ byte ≠ 101 ∧ byte ≠ 69) :
    EndsNumber (byte :: rest) := by
  intro head hHead
  cases hHead
  exact h

theorem reads_nextItem_end (first : Bool) (rest : List UInt8) :
    Reads (nextItem first) (93 :: rest) false (93 :: rest) :=
  (reads_skipBlanks rfl rest).bind (reads_pure false _)

theorem reads_nextItem_first {byte : UInt8} (hSpace : isSpace byte = false) (hEnd : byte ≠ 93)
    (rest : List UInt8) : Reads (nextItem true) (byte :: rest) true (byte :: rest) := by
  refine (reads_skipBlanks hSpace rest).bind ?_
  dsimp only
  rw [if_neg hEnd, if_pos rfl]
  exact reads_pure true _

theorem reads_nextItem_more {byte : UInt8} (hSpace : isSpace byte = false) (hEnd : byte ≠ 93)
    (rest : List UInt8) : Reads (nextItem false) (44 :: byte :: rest) true (byte :: rest) := by
  refine (reads_skipBlanks rfl (byte :: rest)).bind ?_
  refine (reads_advance 44 (byte :: rest)).bind ?_
  refine (reads_skipBlanks hSpace rest).bind ?_
  dsimp only
  rw [if_neg hEnd]
  exact reads_pure true _

theorem reads_endList (rest : List UInt8) : Reads endList (93 :: rest) () rest :=
  (reads_skipBlanks rfl rest).bind (reads_advance 93 rest)

theorem reads_endObject (rest : List UInt8) : Reads endObject (125 :: rest) () rest :=
  (reads_skipBlanks rfl rest).bind (reads_advance 125 rest)

variable {α : Type}

theorem push_append_list (found : Array α) (item : α) (list : List α) :
    found.push item ++ list = found ++ item :: list := by
  apply Array.ext'
  simp

theorem endsNumber_items (code : α → List UInt8) (list : List α) (rest : List UInt8) :
    EndsNumber (list.flatMap (fun item => 44 :: code item) ++ 93 :: rest) := by
  cases list with
  | nil => exact endsNumber_cons rest (by decide)
  | cons item list => exact endsNumber_cons _ (by decide)

theorem reads_itemsFrom_more {reader : Reader α} {code : α → List UInt8} (list : List α)
    (hItems : ∀ item ∈ list, Takes reader (code item) item) (found : Array α) (rest : List UInt8)
    (fuel : Nat) (hFuel : list.length < fuel) :
    Reads (itemsFrom reader false found fuel)
      (list.flatMap (fun item => 44 :: code item) ++ 93 :: rest) (found ++ list) (93 :: rest) := by
  induction list generalizing found fuel with
  | nil =>
    obtain ⟨fuel, rfl⟩ := Nat.exists_eq_succ_of_ne_zero (Nat.ne_of_gt hFuel)
    have hFound : found ++ ([] : List α) = found := by simp
    rw [hFound]
    exact (reads_nextItem_end false rest).bind (reads_pure found _)
  | cons item list ih =>
    obtain ⟨fuel, rfl⟩ := Nat.exists_eq_succ_of_ne_zero (Nat.ne_of_gt (Nat.zero_lt_of_lt hFuel))
    obtain ⟨⟨first, more, hCode, hSpace, hEnd⟩, hReads⟩ := hItems item List.mem_cons_self
    have hRest := hReads _ (endsNumber_items code list rest)
    rw [List.flatMap_cons, List.append_assoc, List.cons_append, ← push_append_list]
    rw [hCode] at hRest ⊢
    refine (reads_nextItem_more hSpace hEnd _).bind ?_
    refine hRest.bind ?_
    exact ih (fun other hOther => hItems other (List.mem_cons_of_mem item hOther)) _ fuel
      (Nat.lt_of_succ_lt_succ hFuel)

theorem length_le_flatMap (code : α → List UInt8) (list : List α) :
    list.length ≤ (list.flatMap fun item => 44 :: code item).length := by
  induction list with
  | nil => exact Nat.le_refl 0
  | cons item list ih =>
    rw [List.flatMap_cons, List.length_append, List.length_cons, List.length_cons]
    omega

theorem reads_items {reader : Reader α} {code : α → List UInt8} (list : List α)
    (hItems : ∀ item ∈ list, Takes reader (code item) item) (rest : List UInt8) :
    Reads (items reader true) (commaBytes (list.map code) ++ 93 :: rest) list (93 :: rest) := by
  have hLoop : ∀ fuel, (commaBytes (list.map code) ++ 93 :: rest).length < fuel →
      Reads (itemsFrom reader true #[] fuel) (commaBytes (list.map code) ++ 93 :: rest)
        list.toArray (93 :: rest) := by
    intro fuel hFuel
    obtain ⟨fuel, rfl⟩ := Nat.exists_eq_succ_of_ne_zero (Nat.ne_of_gt (Nat.zero_lt_of_lt hFuel))
    cases list with
    | nil => exact (reads_nextItem_end true rest).bind (reads_pure #[] _)
    | cons item list =>
      obtain ⟨⟨first, more, hCode, hSpace, hEnd⟩, hReads⟩ := hItems item List.mem_cons_self
      have hRest := hReads _ (endsNumber_items code list rest)
      have hLength := length_le_flatMap code list
      have hMore := reads_itemsFrom_more list
        (fun other hOther => hItems other (List.mem_cons_of_mem item hOther)) #[item] rest fuel
      rw [List.map_cons, commaBytes, List.flatMap_map, List.append_assoc] at hFuel ⊢
      rw [List.length_append, List.length_append] at hFuel
      rw [hCode] at hRest hFuel ⊢
      rw [List.length_cons, List.length_cons] at hFuel
      refine (reads_nextItem_first hSpace hEnd _).bind (hRest.bind ?_)
      have hFound : (item :: list).toArray = #[item] ++ list := by simp
      rw [hFound]
      exact hMore (by omega)
  refine reads_get fun peeked => ?_
  exact (hLoop _ (Nat.lt_succ_self _)).bind (reads_pure list _)

theorem reads_nextName_end (first : Bool) (rest : List UInt8) :
    Reads (nextName first) (125 :: rest) none (125 :: rest) :=
  (reads_skipBlanks rfl rest).bind (reads_pure none _)

theorem reads_memberName (name : String) (rest : List UInt8) :
    Reads (memberName (some 34)) (34 :: quotedBytes name ++ rest) name rest :=
  (reads_advance 34 _).bind (reads_text name rest)

theorem reads_nextName_first (name : String) (rest : List UInt8) :
    Reads (nextName true) (34 :: quotedBytes name ++ rest) (some name) rest := by
  refine (reads_skipBlanks rfl _).bind ?_
  exact (reads_memberName name rest).bind (reads_pure (some name) rest)

theorem reads_nextName_more (name : String) (rest : List UInt8) :
    Reads (nextName false) (44 :: 34 :: quotedBytes name ++ rest) (some name) rest := by
  refine (reads_skipBlanks rfl _).bind ((reads_advance 44 _).bind ?_)
  refine (reads_skipBlanks rfl _).bind ?_
  exact (reads_memberName name rest).bind (reads_pure (some name) rest)

theorem endsNumber_members (members : List (String × Value)) (rest : List UInt8) :
    EndsNumber (members.flatMap (fun member => 44 :: memberBytes member) ++ 125 :: rest) := by
  cases members with
  | nil => exact endsNumber_cons rest (by decide)
  | cons member members => exact endsNumber_cons _ (by decide)

theorem reads_membersFrom_more {reader : Reader Value} (list : List (String × Value))
    (hMembers : ∀ member ∈ list, Takes reader (valueBytes member.2) member.2)
    (found : Array (String × Value)) (rest : List UInt8) (fuel : Nat)
    (hFuel : list.length < fuel) :
    Reads (membersFrom reader false found fuel)
      (list.flatMap (fun member => 44 :: memberBytes member) ++ 125 :: rest) (found ++ list)
      (125 :: rest) := by
  induction list generalizing found fuel with
  | nil =>
    obtain ⟨fuel, rfl⟩ := Nat.exists_eq_succ_of_ne_zero (Nat.ne_of_gt hFuel)
    have hFound : found ++ ([] : List (String × Value)) = found := by simp
    rw [hFound]
    exact (reads_nextName_end false rest).bind (reads_pure found _)
  | cons member list ih =>
    obtain ⟨name, value⟩ := member
    obtain ⟨fuel, rfl⟩ := Nat.exists_eq_succ_of_ne_zero (Nat.ne_of_gt (Nat.zero_lt_of_lt hFuel))
    have hRest := (hMembers (name, value) List.mem_cons_self).2 _ (endsNumber_members list rest)
    rw [List.flatMap_cons, List.append_assoc, List.cons_append, ← push_append_list, memberBytes,
      List.append_assoc]
    refine (reads_nextName_more name _).bind ((reads_colon _).bind (hRest.bind ?_))
    exact ih (fun other hOther => hMembers other (List.mem_cons_of_mem (name, value) hOther)) _
      fuel (Nat.lt_of_succ_lt_succ hFuel)

theorem reads_members {reader : Reader Value} (list : List (String × Value))
    (hMembers : ∀ member ∈ list, Takes reader (valueBytes member.2) member.2)
    (rest : List UInt8) :
    Reads (members reader) (commaBytes (list.map memberBytes) ++ 125 :: rest) list
      (125 :: rest) := by
  have hLoop : ∀ fuel, (commaBytes (list.map memberBytes) ++ 125 :: rest).length < fuel →
      Reads (membersFrom reader true #[] fuel) (commaBytes (list.map memberBytes) ++ 125 :: rest)
        list.toArray (125 :: rest) := by
    intro fuel hFuel
    obtain ⟨fuel, rfl⟩ := Nat.exists_eq_succ_of_ne_zero (Nat.ne_of_gt (Nat.zero_lt_of_lt hFuel))
    cases list with
    | nil => exact (reads_nextName_end true rest).bind (reads_pure #[] _)
    | cons member list =>
      obtain ⟨name, value⟩ := member
      have hRest := (hMembers (name, value) List.mem_cons_self).2 _ (endsNumber_members list rest)
      have hLength := length_le_flatMap memberBytes list
      have hMore := reads_membersFrom_more list
        (fun other hOther => hMembers other (List.mem_cons_of_mem (name, value) hOther))
        #[(name, value)] rest fuel
      rw [List.map_cons, commaBytes, List.flatMap_map, List.append_assoc, memberBytes,
        List.append_assoc] at hFuel ⊢
      rw [List.length_append, List.length_append, List.length_append, List.length_cons] at hFuel
      refine (reads_nextName_first name _).bind ((reads_colon _).bind (hRest.bind ?_))
      have hFound : ((name, value) :: list).toArray = #[(name, value)] ++ list := by simp
      rw [hFound]
      exact hMore (by omega)
  refine reads_get fun peeked => ?_
  exact (hLoop _ (Nat.lt_succ_self _)).bind (reads_pure list _)

theorem reads_valueWith {list object : Reader Value} {first : UInt8} {input rest : List UInt8}
    {value : Value} (hSpace : isSpace first = false)
    (h : Reads (if first = 91 then list else if first = 123 then object else scalar first)
      (first :: input) value rest) :
    Reads (valueWith list object) (first :: input) value rest :=
  (reads_skipBlanks hSpace input).bind h

theorem scalar_number {first : UInt8} (hFirst : first = 45 ∨ isDigit first = true) :
    scalar first = (do return .number (← number first)) := by
  have hOther : ∀ byte : UInt8, byte ≠ 45 → isDigit byte = false → first ≠ byte := by
    rintro byte hSign hDigit rfl
    rcases hFirst with rfl | hFirst
    · exact hSign rfl
    · rw [hDigit] at hFirst
      cases hFirst
  have hNumber : (decide (first = 45) || isDigit first) = true := by
    rcases hFirst with rfl | hFirst
    · rfl
    · rw [hFirst, Bool.or_true]
  rw [scalar, if_neg (hOther 110 (by decide) rfl), if_neg (hOther 116 (by decide) rfl),
    if_neg (hOther 102 (by decide) rfl), if_neg (hOther 34 (by decide) rfl), if_pos hNumber]

theorem number_start {first : UInt8} (hFirst : first = 45 ∨ isDigit first = true) :
    isSpace first = false ∧ first ≠ 93 ∧ first ≠ 91 ∧ first ≠ 123 := by
  rcases hFirst with rfl | hDigit
  · decide
  · refine ⟨?_, ?_, ?_, ?_⟩
    · rw [Bool.eq_false_iff]
      intro hSpace
      simp only [isSpace, Bool.or_eq_true, decide_eq_true_eq] at hSpace
      rcases hSpace with ((rfl | rfl) | rfl) | rfl <;> cases hDigit
    all_goals
      rintro rfl
      cases hDigit

theorem takes_word (list object : Reader Value) {first : UInt8} {word : List UInt8}
    {value : Value} (hBytes : valueBytes value = first :: word)
    (hFirst : isSpace first = false ∧ first ≠ 93 ∧ first ≠ 91 ∧ first ≠ 123)
    (hScalar : scalar first = (do advance; Reader.word word; return value)) :
    Takes (valueWith list object) (valueBytes value) value := by
  obtain ⟨hSpace, hEnd, hList, hObject⟩ := hFirst
  rw [hBytes]
  refine ⟨⟨first, word, rfl, hSpace, hEnd⟩, fun rest _ => ?_⟩
  refine reads_valueWith hSpace ?_
  rw [if_neg hList, if_neg hObject, hScalar]
  exact (reads_advance first _).bind ((reads_word word rest).bind (reads_pure value rest))

/-- A value that is neither a list nor an object is taken whatever the readers of those do. -/
theorem takes_scalar (list object : Reader Value) {value : Value} (hPlain : value.Plain 0) :
    Takes (valueWith list object) (valueBytes value) value := by
  cases value with
  | null =>
    have hBytes : valueBytes .null = 110 :: letters "ull" := by
      exact Utf8.bytes_of_toList rfl
    exact takes_word list object hBytes (by decide) rfl
  | bool value =>
    cases value with
    | true =>
      have hBytes : valueBytes (.bool true) = 116 :: letters "rue" := by
        exact Utf8.bytes_of_toList rfl
      exact takes_word list object hBytes (by decide) rfl
    | false =>
      have hBytes : valueBytes (.bool false) = 102 :: letters "alse" := by
        exact Utf8.bytes_of_toList rfl
      exact takes_word list object hBytes (by decide) rfl
  | number number =>
    cases number with
    | decimal value => cases hPlain
    | integer value =>
      obtain ⟨first, more, hBytes, hFirst, hReads⟩ := reads_integer value hPlain
      obtain ⟨hSpace, hEnd, hList, hObject⟩ := number_start hFirst
      have hValue : valueBytes (.number (.integer value)) = first :: more := hBytes
      rw [hBytes] at hReads
      rw [hValue]
      refine ⟨⟨first, more, rfl, hSpace, hEnd⟩, fun rest hRest => ?_⟩
      refine reads_valueWith hSpace ?_
      rw [if_neg hList, if_neg hObject, scalar_number hFirst]
      exact (hReads rest hRest).bind (reads_pure _ rest)
  | text value =>
    rw [valueBytes_text]
    refine ⟨⟨34, _, rfl, rfl, by decide⟩, fun rest _ => ?_⟩
    exact reads_valueWith rfl ((reads_advance 34 _).bind
      ((reads_text value rest).bind (reads_pure _ rest)))
  | list items => cases hPlain
  | object members => cases hPlain

theorem takes_rawValue (depth : Nat) (value : Value) (hPlain : value.Plain depth) :
    Takes (rawValue depth) (valueBytes value) value := by
  induction depth generalizing value with
  | zero => exact takes_scalar _ _ hPlain
  | succ depth ih =>
    cases value with
    | list items =>
      rw [valueBytes_list]
      refine ⟨⟨91, _, rfl, rfl, by decide⟩, fun rest _ => ?_⟩
      have hItems := reads_items items (fun item hItem => ih item (hPlain item hItem)) rest
      rw [List.append_assoc]
      exact reads_valueWith rfl ((reads_advance 91 _).bind
        ((hItems.closedBy (reads_endList rest)).bind (reads_pure _ rest)))
    | object members =>
      rw [valueBytes_object]
      refine ⟨⟨123, _, rfl, rfl, by decide⟩, fun rest _ => ?_⟩
      have hMembers := reads_members members
        (fun member hMember => ih member.2 (hPlain.2 member hMember)) rest
      rw [List.append_assoc]
      exact reads_valueWith rfl ((reads_advance 123 _).bind
        ((hMembers.closedBy (reads_endObject rest)).bind (reads_pure _ rest)))
    | null => exact takes_scalar _ _ trivial
    | bool value => exact takes_scalar _ _ trivial
    | text value => exact takes_scalar _ _ trivial
    | number number =>
      cases number with
      | integer value => exact takes_scalar _ _ hPlain
      | decimal value => exact takes_scalar _ _ hPlain

end Reader

theorem mergedMembers_eq (sofar members : Members)
    (hNames : (Members.names (sofar ++ members)).Nodup)
    (hValues : ∀ member ∈ members, Value.merged member.2 = member.2) :
    Value.mergedMembers sofar members = sofar ++ members := by
  induction members generalizing sofar with
  | nil => rw [Value.mergedMembers, List.append_nil]
  | cons member rest ih =>
    obtain ⟨name, value⟩ := member
    have hAppend : sofar ++ (name, value) :: rest = sofar ++ [(name, value)] ++ rest := by simp
    have hName : name ∉ Members.names sofar := by
      rw [Members.names, List.map_append, List.nodup_append] at hNames
      intro hSofar
      exact hNames.2.2 name hSofar name List.mem_cons_self rfl
    have hValue : value.merged = value := hValues (name, value) List.mem_cons_self
    rw [hAppend] at hNames ⊢
    rw [Value.mergedMembers, hValue, Members.put_new hName value, ih _ hNames
      fun other hOther => hValues other (List.mem_cons_of_mem _ hOther)]

theorem mergedItems_eq (items : List Value)
    (hItems : ∀ item ∈ items, Value.merged item = item) : Value.mergedItems items = items := by
  induction items with
  | nil => rw [Value.mergedItems]
  | cons item rest ih =>
    rw [Value.mergedItems, hItems item List.mem_cons_self,
      ih fun other hOther => hItems other (List.mem_cons_of_mem item hOther)]

theorem merged_of_plain (depth : Nat) (value : Value) (hPlain : value.Plain depth) :
    value.merged = value := by
  induction depth generalizing value with
  | zero =>
    cases value with
    | list items => cases hPlain
    | object members => cases hPlain
    | _ => rw [Value.merged] <;> simp
  | succ depth ih =>
    cases value with
    | list items =>
      rw [Value.merged, mergedItems_eq items fun item hItem => ih item (hPlain item hItem)]
    | object members =>
      rw [Value.merged, mergedMembers_eq [] members hPlain.1
        fun member hMember => ih member.2 (hPlain.2 member hMember), List.nil_append]
    | _ => rw [Value.merged] <;> simp

theorem parse_compact (value : Value) (hPlain : value.Plain maxDepth) :
    parse value.compact = .ok value := by
  have hRaw := (Reader.takes_rawValue maxDepth value hPlain).2 [] (by rintro byte ⟨⟩)
  rw [List.append_nil] at hRaw
  have hValue : Reader.Reads (Reader.value maxDepth) (valueBytes value) value [] := by
    refine hRaw.bind ?_
    rw [merged_of_plain maxDepth value hPlain]
    exact Reader.reads_pure value []
  exact hValue.run_only .whole

end DeviceRig.Json
