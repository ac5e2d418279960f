import DeviceRig.Text.Unseen

/-!
Quoted text in messages: between double quotes, with quotes and backslashes escaped, the common
controls by letter and every other unseen character by its number in hexadecimal.
-/
namespace DeviceRig.Text

def quoteChar (c : Char) : String :=
  match c with
  | '"' => "\\\""
  | '\\' => "\\\\"
  | '\n' => "\\n"
  | '\r' => "\\r"
  | '\t' => "\\t"
  | '\x00' => "\\0"
  | c =>
    if isUnseen c then "\\u\x7b" ++ String.ofList (Nat.toDigits 16 c.toNat) ++ "\x7d"
    else c.toString

def quoted (text : String) : String :=
  text.toList.foldl (fun out c => out ++ quoteChar c) "\"" ++ "\""

end DeviceRig.Text
