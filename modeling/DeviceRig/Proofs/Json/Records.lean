import DeviceRig.Json.Record
import DeviceRig.Proofs.Json.Tagged

/-!
# Records

The fields of a record are taken one member after the other, and what was
printed for a field of text, items or members is what its reader takes.
-/
namespace DeviceRig.Json.Reader

theorem takes_value (depth : Nat) (value : Value) (hPlain : value.Plain depth) :
    Takes (Reader.value depth) (valueBytes value) value := by
  obtain ⟨hStart, hReads⟩ := takes_rawValue depth value hPlain
  refine ⟨hStart, fun rest hRest => (hReads rest hRest).bind ?_⟩
  rw [merged_of_plain depth value hPlain]
  exact reads_pure value rest

theorem reads_wantedText (value : String) (rest : List UInt8) :
    Reads wantedText (valueBytes (.text value) ++ rest) value rest := by
  rw [valueBytes_text]
  exact (reads_start rfl _).bind ((reads_advance 34 _).bind (reads_text value rest))

theorem reads_bracketed {α : Type} (inside : Nat → Reader α) {close : Reader Unit} {depth : Nat}
    {input middle rest : List UInt8} {value : α} (bracket : UInt8)
    (hInside : Reads (inside depth) input value middle) (hClose : Reads close middle () rest) :
    Reads (bracketed inside close (depth + 1)) (bracket :: input) value rest :=
  (reads_advance bracket input).bind (hInside.closedBy hClose).placed

theorem reads_wantedList {depth : Nat} (list : List Value)
    (hItems : ∀ item ∈ list, Value.Plain depth item) (rest : List UInt8) :
    Reads (wantedList Reader.value (depth + 1)) (valueBytes (.list list) ++ rest) list rest := by
  have hInside := reads_items list (fun item hItem => takes_value depth item (hItems item hItem))
    rest
  rw [valueBytes_list, List.append_assoc]
  exact (reads_start rfl _).bind (reads_bracketed (fun depth => items (value depth) true)
    91 hInside (reads_endList rest))

theorem reads_wantedObject {depth : Nat} (list : Members)
    (hPlain : Value.Plain (depth + 1) (.object list)) (rest : List UInt8) :
    Reads (wantedObject (depth + 1)) (valueBytes (.object list) ++ rest) list rest := by
  have hMerged := merged_of_plain _ _ hPlain
  rw [Value.merged, Value.object.injEq] at hMerged
  have hInside := reads_members list
    (fun member hMember => takes_rawValue depth member.2 (hPlain.2 member hMember)) rest
  have hBracketed := reads_bracketed (fun depth => members (rawValue depth)) 123 hInside
    (reads_endObject rest)
  rw [valueBytes_object, List.append_assoc]
  refine (reads_start rfl _).bind (hBracketed.bind ?_)
  rw [hMerged]
  exact reads_pure list rest

section Fields

variable {Draft : Type} (fields : List (RecordField Draft)) (depth : Nat) (draft : Draft)

/-- A member with the name of a field sets that field, and the members behind it are read into what
comes of that. -/
theorem reads_fieldMembers (lead : List UInt8) {first : Bool} {input rest : List UInt8}
    {name : String} {last : Draft} {value : Value} {field : RecordField Draft}
    {set : Draft → Draft} {fuel : Nat}
    (hName : ∀ tail, Reads (nextName first) (lead ++ (34 :: quotedBytes name ++ tail)) (some name)
      tail)
    (hField : (fields.find? fun field => field.name = name) = some field)
    (hUnset : field.isSet draft = false)
    (hValue : Reads (field.read depth) (valueBytes value ++ input) set input)
    (hRest : Reads (fieldMembers fields depth false (set draft) fuel) input last rest) :
    Reads (fieldMembers fields depth first draft (fuel + 1))
      (lead ++ (memberBytes (name, value) ++ input)) last rest := by
  rw [memberBytes, List.append_assoc]
  refine (hName _).bind ?_
  dsimp only
  rw [hField]
  dsimp only
  rw [hUnset, if_neg Bool.false_ne_true]
  exact (reads_colon _).bind (hValue.bind hRest)

theorem reads_fieldMembers_end (first : Bool) (fuel : Nat)
    (hComplete : (fields.find? fun field => !field.hasDefault && !field.isSet draft) = none)
    (rest : List UInt8) :
    Reads (fieldMembers fields depth first draft (fuel + 1)) (125 :: rest) draft (125 :: rest) := by
  refine (reads_nextName_end first rest).bind ?_
  dsimp only
  rw [fieldMissing, hComplete]
  exact reads_pure draft _

end Fields

end DeviceRig.Json.Reader
