import DeviceRig.Json.Value

/-!
Members of descriptions. A description is a JSON object; a member that is missing or of another
type counts as an empty text, as zero, as false or as an empty list.
-/
namespace DeviceRig.Exchange

open Json

def has (value : Value) (name : String) : Bool :=
  match value with
  | .object members => (Members.get? members name).isSome
  | _ => false

def isNull : Value → Bool
  | .null => true
  | _ => false

def textAt? (value : Value) (name : String) : Option String :=
  (value.member name).asText?

def textAt (value : Value) (name : String) : String :=
  (textAt? value name).getD ""

def integerOf : Value → Int
  | .number (.integer value) => value
  | .number (.decimal value) =>
    if value < 0 then -(Decimal.wholePart (-value) : Int) else Decimal.wholePart value
  | _ => 0

def natAtOr (value : Value) (name : String) (default : Nat) : Nat :=
  match value.member name with
  | .number number => (integerOf (.number number)).toNat
  | _ => default

def natAt (value : Value) (name : String) : Nat := natAtOr value name 0

def boolOf : Value → Bool
  | .bool value => value
  | _ => false

def flagAt (value : Value) (name : String) : Bool := boolOf (value.member name)

def itemsOf : Value → List Value
  | .list items => items
  | _ => []

def listAt (value : Value) (name : String) : List Value := itemsOf (value.member name)

def textsAt (value : Value) (name : String) : List String :=
  (listAt value name).map fun item => item.asText?.getD ""

def membersOf : Value → Members
  | .object members => members
  | _ => []

def record (members : Members) : Value := .object members

def integer (value : Int) : Value := .integer value

end DeviceRig.Exchange
