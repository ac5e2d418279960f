import DeviceRig.Json.Value
import DeviceRig.Text.Quoted

/-!
Failures of reading JSON. Either the text is no JSON, or it ends too early, or its data are not
what was asked for. Most failures have a place in the text.
-/
namespace DeviceRig.Json

inductive Found where
  | null
  | bool (value : Bool)
  | number (value : Number)
  | text (value : String)
  | list
  | object
deriving Repr, Inhabited

def Found.ofValue : Value → Found
  | .null => .null
  | .bool value => .bool value
  | .number value => .number value
  | .text value => .text value
  | .list _ => .list
  | .object _ => .object

def Found.describe : Found → String
  | .null => "null"
  | .bool value => "boolean `" ++ (if value then "true" else "false") ++ "`"
  | .number (.integer value) => s!"integer `{value}`"
  | .number (.decimal value) => "floating point `" ++ Decimal.jsonLayout.text value ++ "`"
  | .text value => "string " ++ Text.quoted value
  | .list => "sequence"
  | .object => "map"

inductive Mismatch where
  | wrongType (found : Found) (expected : String)
  | wrongValue (found : Found) (expected : String)
  | wrongLength (found : Nat) (expected : String)
  | missingField (name : String)
  | duplicateField (name : String)
  | unknownVariant (found : String) (known : List String)
deriving Repr, Inhabited

def alternatives : List String → String
  | [] => "there are no variants"
  | [only] => "expected `" ++ only ++ "`"
  | [first, second] => "expected `" ++ first ++ "` or `" ++ second ++ "`"
  | many => "expected one of " ++ String.intercalate ", " (many.map fun name => "`" ++ name ++ "`")

def Mismatch.message : Mismatch → String
  | .wrongType found expected => s!"invalid type: {found.describe}, expected {expected}"
  | .wrongValue found expected => s!"invalid value: {found.describe}, expected {expected}"
  | .wrongLength found expected => s!"invalid length {found}, expected {expected}"
  | .missingField name => "missing field `" ++ name ++ "`"
  | .duplicateField name => "duplicate field `" ++ name ++ "`"
  | .unknownVariant found known => "unknown variant `" ++ found ++ "`, " ++ alternatives known

inductive Cause where
  | endOfList
  | endOfObject
  | endOfText
  | endOfValue
  | colonExpected
  | listCommaExpected
  | objectCommaExpected
  | wordExpected
  | valueExpected
  | badEscape
  | badNumber
  | numberOutOfRange
  | badUnicode
  | controlInText
  | keyNotText
  | loneSurrogate
  | hexEscapeEnds
  | trailingComma
  | trailingText
  | tooDeep
  | mismatch (data : Mismatch)
deriving Repr, Inhabited

/-- Whether the text is malformed, ends early, or holds other data than asked for. -/
inductive Category where
  | malformed
  | early
  | data
deriving DecidableEq, Repr

def Cause.category : Cause → Category
  | .endOfList | .endOfObject | .endOfText | .endOfValue => .early
  | .mismatch _ => .data
  | _ => .malformed

def Cause.message : Cause → String
  | .endOfList => "EOF while parsing a list"
  | .endOfObject => "EOF while parsing an object"
  | .endOfText => "EOF while parsing a string"
  | .endOfValue => "EOF while parsing a value"
  | .colonExpected => "expected `:`"
  | .listCommaExpected => "expected `,` or `]`"
  | .objectCommaExpected => "expected `,` or `\x7d`"
  | .wordExpected => "expected ident"
  | .valueExpected => "expected value"
  | .badEscape => "invalid escape"
  | .badNumber => "invalid number"
  | .numberOutOfRange => "number out of range"
  | .badUnicode => "invalid unicode code point"
  | .controlInText => "control character (\\u0000-\\u001F) found while parsing a string"
  | .keyNotText => "key must be a string"
  | .loneSurrogate => "lone leading surrogate in hex escape"
  | .hexEscapeEnds => "unexpected end of hex escape"
  | .trailingComma => "trailing comma"
  | .trailingText => "trailing characters"
  | .tooDeep => "recursion limit exceeded"
  | .mismatch data => data.message

structure Position where
  line : Nat
  column : Nat
deriving DecidableEq, Repr, Inhabited

def Position.behind (bytes : List UInt8) : Position :=
  bytes.foldl (fun position byte =>
    if byte = 10 then ⟨position.line + 1, 0⟩ else ⟨position.line, position.column + 1⟩) ⟨1, 0⟩

end DeviceRig.Json

namespace DeviceRig

structure JsonError where
  cause : Json.Cause
  position : Option Json.Position
deriving Repr, Inhabited

namespace JsonError

def message : JsonError → String
  | ⟨cause, none⟩ => cause.message
  | ⟨cause, some position⟩ =>
    s!"{cause.message} at line {position.line} column {position.column}"

def category (error : JsonError) : Json.Category :=
  error.cause.category

def ofMismatch (mismatch : Json.Mismatch) : JsonError :=
  ⟨.mismatch mismatch, none⟩

end JsonError

end DeviceRig
