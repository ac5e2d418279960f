import DeviceRig.Json.Convert
import DeviceRig.Json.Skip

/-!
Reading data of a wanted kind straight from a text. Where something else stands, it is read as far
as its message needs. A record is an object, whose unknown members are skipped, or a list of its
fields in order; a field without a default has to be there and no field may be there twice.
-/
namespace DeviceRig.Json

namespace Reader

/-- Fails because something else stands here than expected. Texts, numbers and words are read
first; a list or an object is left where it is. -/
def mismatch {α : Type} (first : UInt8) (expected : String) : Reader α :=
  placed do
    if first = 91 then failData (.wrongType .list expected)
    else if first = 123 then failData (.wrongType .object expected)
    else
      let found ← scalar first
      failData (.wrongType (.ofValue found) expected)

def accept {α : Type} : Except Mismatch α → Reader α
  | .ok value => pure value
  | .error data => failData data

def start : Reader UInt8 := do
  match ← skipBlanks with
  | none => failAhead .endOfValue
  | some first => return first

def wantedText : Reader String := do
  let first ← start
  if first = 34 then
    advance
    text
  else mismatch first "a string"

def wantedBool : Reader Bool := do
  let first ← start
  if first = 116 || first = 102 then
    match ← scalar first with
    | .bool value => return value
    | _ => mismatch first "a boolean"
  else mismatch first "a boolean"

def wantedInteger (range : IntegerRange) : Reader Int := do
  let first ← start
  if first = 45 || isDigit first then
    placed do
      accept (range.ofNumber (← number first))
  else mismatch first range.name

/-- Reads what stands between brackets, inside which so many more may open. -/
def bracketed {α : Type} (inside : Nat → Reader α) (close : Reader Unit) : Nat → Reader α
  | 0 => failAhead .tooDeep
  | depth + 1 => do
    advance
    placed (closedBy (inside depth) close)

def wantedList {α : Type} (item : Nat → Reader α) (depth : Nat) : Reader (List α) := do
  let first ← start
  if first = 91 then bracketed (fun depth => items (item depth) true) endList depth
  else mismatch first "a sequence"

def wantedObject (depth : Nat) : Reader Members := do
  let first ← start
  if first = 123 then
    let raw ← bracketed (fun depth => members (rawValue depth)) endObject depth
    return Value.mergedMembers [] raw
  else mismatch first "a map"

end Reader

/-- A field of a record: how it is read into a draft of the record that may lack fields. -/
structure RecordField (Draft : Type) where
  name : String
  hasDefault : Bool
  isSet : Draft → Bool
  read : Nat → Reader (Draft → Draft)

def countedElements (count : Nat) : String :=
  if count = 1 then "1 element" else s!"{count} elements"

namespace Reader

def fieldMissing {Draft : Type} (fields : List (RecordField Draft)) (draft : Draft) :
    Reader Draft :=
  match fields.find? fun field => !field.hasDefault && !field.isSet draft with
  | some field => failData (.missingField field.name)
  | none => pure draft

def fieldItems {Draft : Type} (expected : String) (depth : Nat) (index : Nat) (draft : Draft) :
    List (RecordField Draft) → Reader Draft
  | [] => pure draft
  | field :: rest => do
    if ← nextItem (index = 0) then
      fieldItems expected depth (index + 1) ((← field.read depth) draft) rest
    else
      match (field :: rest).findIdx? fun field => !field.hasDefault with
      | some offset => failData (.wrongLength (index + offset) expected)
      | none => return draft

def fieldMembers {Draft : Type} (fields : List (RecordField Draft)) (depth : Nat) (first : Bool)
    (draft : Draft) : Nat → Reader Draft
  | 0 => pure draft
  | fuel + 1 => do
    match ← nextName first with
    | none => fieldMissing fields draft
    | some name =>
      match fields.find? fun field => field.name = name with
      | none =>
        colon
        skip
        fieldMembers fields depth false draft fuel
      | some field =>
        if field.isSet draft then failData (.duplicateField name)
        else
          colon
          fieldMembers fields depth false ((← field.read depth) draft) fuel

def record {Draft : Type} (kind : String) (fields : List (RecordField Draft)) (blank : Draft)
    (depth : Nat) : Reader Draft := do
  let first ← start
  if first = 91 then
    let expected := s!"struct {kind} with {countedElements fields.length}"
    bracketed (fun depth => fieldItems expected depth 0 blank fields) endList depth
  else if first = 123 then
    let inside (depth : Nat) : Reader Draft := do
      fieldMembers fields depth true blank ((← get).rest.length + 1)
    bracketed inside endObject depth
  else mismatch first s!"struct {kind}"

end Reader

end DeviceRig.Json
