import DeviceRig.Json.Value

/-!
Compact JSON text: no blanks, members in their order, the two characters that end a text escaped,
controls by letter or number, everything else as it is.
-/
namespace DeviceRig.Json

def hexDigit (n : Nat) : Char :=
  (Nat.digitChar (n % 16))

def escapeChar (c : Char) : String :=
  match c with
  | '"' => "\\\""
  | '\\' => "\\\\"
  | '\x08' => "\\b"
  | '\x0C' => "\\f"
  | '\n' => "\\n"
  | '\r' => "\\r"
  | '\t' => "\\t"
  | c =>
    if c.toNat < 0x20 then
      "\\u00" ++ String.ofList [hexDigit (c.toNat / 16), hexDigit c.toNat]
    else c.toString

def printText (text : String) : String :=
  "\"" ++ String.join (text.toList.map escapeChar) ++ "\""

def Number.compact : Number → String
  | .integer value => toString value
  | .decimal value => Decimal.jsonLayout.text value

def commaSeparated : List String → String
  | [] => ""
  | first :: rest => rest.foldl (fun out part => out ++ "," ++ part) first

namespace Value

mutual

def compact : Value → String
  | .null => "null"
  | .bool value => if value then "true" else "false"
  | .number value => value.compact
  | .text value => printText value
  | .list items => "[" ++ commaSeparated (compactItems items) ++ "]"
  | .object members => "\x7b" ++ commaSeparated (compactMembers members) ++ "\x7d"

def compactItems : List Value → List String
  | [] => []
  | item :: rest => compact item :: compactItems rest

def compactMembers : List (String × Value) → List String
  | [] => []
  | (name, value) :: rest => (printText name ++ ":" ++ compact value) :: compactMembers rest

end

/-- A text stands for itself, everything else for its compact JSON. -/
def preview : Value → String
  | .text value => value
  | other => other.compact

end Value

end DeviceRig.Json
