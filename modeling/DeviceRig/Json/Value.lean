import DeviceRig.Decimal.Shortest

/-!
JSON values. Integers of at most 64 bits are exact and every other number is a double; the members
of an object keep the order in which their names came first.
-/
namespace DeviceRig.Json

inductive Number where
  | integer (value : Int)
  | decimal (value : Float)
deriving BEq, Repr, Inhabited

/-- Whether an integer fits 64 bits, with a sign if it is negative and without otherwise. -/
def fitsInteger (value : Int) : Bool :=
  -0x8000000000000000 ≤ value && value ≤ 0xffffffffffffffff

inductive Value where
  | null
  | bool (value : Bool)
  | number (value : Number)
  | text (value : String)
  | list (items : List Value)
  | object (members : List (String × Value))
deriving BEq, Repr, Inhabited

/-- The members of an object, in the order of their first mention. -/
abbrev Members := List (String × Value)

namespace Members

def get? (members : Members) (name : String) : Option Value :=
  match members with
  | [] => none
  | (other, value) :: rest => if other = name then some value else get? rest name

def put (members : Members) (name : String) (value : Value) : Members :=
  match members with
  | [] => [(name, value)]
  | (other, old) :: rest =>
    if other = name then (other, value) :: rest else (other, old) :: put rest name value

def putAll (members more : Members) : Members :=
  more.foldl (fun sofar member => put sofar member.1 member.2) members

def names (members : Members) : List String :=
  members.map Prod.fst

def without (members : Members) (dropped : List String) : Members :=
  members.filter fun member => !dropped.contains member.1

end Members

namespace Value

mutual

/-- The value with every repeated member name reduced to its last value in its first place. -/
def merged : Value → Value
  | .list items => .list (mergedItems items)
  | .object members => .object (mergedMembers [] members)
  | other => other

def mergedItems : List Value → List Value
  | [] => []
  | item :: rest => merged item :: mergedItems rest

def mergedMembers (sofar : Members) : List (String × Value) → Members
  | [] => sofar
  | (name, value) :: rest => mergedMembers (Members.put sofar name (merged value)) rest

end

def integer (value : Int) : Value :=
  .number (.integer value)

def decimal (value : Float) : Value :=
  .number (.decimal value)

def ofOption {α : Type} (write : α → Value) : Option α → Value
  | none => .null
  | some value => write value

def asText? : Value → Option String
  | .text value => some value
  | _ => none

def asMembers? : Value → Option Members
  | .object members => some members
  | _ => none

/-- A member of an object; null for a missing one and for what is no object. -/
def member (value : Value) (name : String) : Value :=
  match value with
  | .object members => (Members.get? members name).getD .null
  | _ => .null

end Value

end DeviceRig.Json
