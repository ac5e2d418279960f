import DeviceRig.Json.Record

/-!
Reading tagged data: an object whose member `type` names the variant, or a list whose first item
does. The tag is read in its place and the rest is kept; only then are the fields of the variant
read from it, so what is wrong with them has no place in the text.
-/
namespace DeviceRig.Json

inductive Content where
  | members (members : List (String × Value))
  | items (items : List Value)

def tagName : String := "type"

namespace Reader

def tag (known : List String) : Reader String := do
  let first ← start
  if first = 34 then
    advance
    placed do
      let name ← text
      if known.contains name then return name else failData (.unknownVariant name known)
  else mismatch first "variant identifier"

def taggedMembers (known : List String) (depth : Nat) (first : Bool) (found : Option String)
    (others : Array (String × Value)) : Nat → Reader (String × Content)
  | 0 => failData (.missingField tagName)
  | fuel + 1 => do
    match ← nextName first with
    | none =>
      match found with
      | some name => return (name, .members others.toList)
      | none => failData (.missingField tagName)
    | some name =>
      if name = tagName then
        if found.isSome then failData (.duplicateField tagName)
        else
          colon
          taggedMembers known depth false (some (← tag known)) others fuel
      else
        colon
        taggedMembers known depth false found (others.push (name, ← rawValue depth)) fuel

def taggedItems (known : List String) (depth : Nat) : Reader (String × Content) := do
  if ← nextItem true then
    let name ← tag known
    return (name, .items (← items (rawValue depth) false))
  else failData (.missingField tagName)

def tagged (kind : String) (known : List String) : Reader (String × Content) := do
  let first ← start
  if first = 91 then bracketed (taggedItems known) endList maxDepth
  else if first = 123 then
    let inside (depth : Nat) : Reader (String × Content) := do
      taggedMembers known depth true none #[] ((← get).rest.length + 1)
    bracketed inside endObject maxDepth
  else
    placed do
      let found ← scalar first
      failData (.wrongType (.ofValue found) s!"internally tagged enum {kind}")

end Reader

structure VariantField (Draft : Type) where
  name : String
  hasDefault : Bool
  isSet : Draft → Bool
  set : Value → Draft → Except Mismatch Draft

namespace Content

def setMembers {Draft : Type} (fields : List (VariantField Draft)) (draft : Draft) :
    List (String × Value) → Except Mismatch Draft
  | [] =>
    match fields.find? fun field => !field.hasDefault && !field.isSet draft with
    | some field => .error (.missingField field.name)
    | none => .ok draft
  | (name, value) :: rest =>
    match fields.find? fun field => field.name = name with
    | none => setMembers fields draft rest
    | some field =>
      if field.isSet draft then .error (.duplicateField name)
      else
        match field.set value draft with
        | .error data => .error data
        | .ok draft => setMembers fields draft rest

def setItems {Draft : Type} (expected : String) (index : Nat) (draft : Draft) :
    List (VariantField Draft) → List Value → Except Mismatch Draft
  | [], [] => .ok draft
  | [], rest =>
    .error (.wrongLength (index + rest.length) s!"{countedElements index} in sequence")
  | field :: fields, [] =>
    match (field :: fields).findIdx? fun field => !field.hasDefault with
    | some offset => .error (.wrongLength (index + offset) expected)
    | none => .ok draft
  | field :: fields, value :: rest =>
    match field.set value draft with
    | .error data => .error data
    | .ok draft => setItems expected (index + 1) draft fields rest

def fill {Draft : Type} (variant : String) (fields : List (VariantField Draft)) (blank : Draft) :
    Content → Except Mismatch Draft
  | .members found => setMembers fields blank found
  | .items found =>
    setItems s!"struct variant {variant} with {countedElements fields.length}" 0 blank fields found

end Content

end DeviceRig.Json
