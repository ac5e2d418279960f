import DeviceRig.Json.Error

/-!
Values as data of a wanted kind. A value of another kind is a mismatch; a number of the right kind
outside the wanted range is one too.
-/
namespace DeviceRig.Json

/-- A range of integers and the name that it goes by in messages. -/
structure IntegerRange where
  name : String
  low : Int
  high : Int

namespace IntegerRange

def byte : IntegerRange := ⟨"u8", 0, 0xff⟩

def word : IntegerRange := ⟨"u32", 0, 0xffffffff⟩

def natural : IntegerRange := ⟨"u64", 0, 0xffffffffffffffff⟩

def index : IntegerRange := ⟨"usize", 0, 0xffffffffffffffff⟩

def signed : IntegerRange := ⟨"i64", -0x8000000000000000, 0x7fffffffffffffff⟩

def ofNumber (range : IntegerRange) (number : Number) : Except Mismatch Int :=
  match number with
  | .integer value =>
    if range.low ≤ value ∧ value ≤ range.high then .ok value
    else .error (.wrongValue (.number number) range.name)
  | .decimal _ => .error (.wrongType (.number number) range.name)

end IntegerRange

abbrev Conversion (α : Type) := Value → Except Mismatch α

namespace Conversion

def wrongType {α : Type} (value : Value) (expected : String) : Except Mismatch α :=
  .error (.wrongType (.ofValue value) expected)

def integer (range : IntegerRange) : Conversion Int
  | .number number => range.ofNumber number
  | value => wrongType value range.name

def natural (range : IntegerRange) : Conversion Nat := fun value =>
  Int.toNat <$> integer range value

def decimal : Conversion Float
  | .number (.integer value) => .ok (Float.ofInt value)
  | .number (.decimal value) => .ok value
  | value => wrongType value "f64"

def bool : Conversion Bool
  | .bool value => .ok value
  | value => wrongType value "a boolean"

def text : Conversion String
  | .text value => .ok value
  | value => wrongType value "a string"

def list {α : Type} (item : Conversion α) : Conversion (List α)
  | .list items => items.mapM item
  | value => wrongType value "a sequence"

def members : Conversion Members
  | .object members => .ok (Value.mergedMembers [] members)
  | value => wrongType value "a map"

def any : Conversion Value := fun value => .ok value.merged

end Conversion

end DeviceRig.Json
