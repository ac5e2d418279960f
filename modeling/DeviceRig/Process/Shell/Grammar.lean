import DeviceRig.Text.Utf8

/-!
Shell scripts as trees. A word is made of parts: plain text, values of parameters, the output of
scripts and the value of calculations; what stands in quotes is marked, since it is neither split
nor taken as a pattern. A command is a simple one or puts others together.
-/
namespace DeviceRig.Shell

abbrev ByteText := List Char

namespace ByteText

def ofBytes (bytes : List UInt8) : ByteText :=
  bytes.map fun byte => Char.ofNat byte.toNat

def ofString (text : String) : ByteText :=
  ofBytes (Utf8.bytes text)

def toBytes (text : ByteText) : List UInt8 :=
  text.map fun c => c.toNat.toUInt8

def toText (text : ByteText) : String :=
  Utf8.lossy (toBytes text)

end ByteText

/-- What a parameter stands for besides its value. A condition holds for a parameter that is unset
and, if `ifEmpty`, for an empty one. -/
inductive Change where
  | value
  | length
  | fallback (ifEmpty : Bool)
  | assign (ifEmpty : Bool)
  | require (ifEmpty : Bool)
  | alternative (ifEmpty : Bool)
  | cutStart (longest : Bool)
  | cutEnd (longest : Bool)
  | bad
deriving DecidableEq, Repr, Inhabited

inductive OpenMode where
  | read
  | write
  | overwrite
  | append
  | readWrite
deriving DecidableEq, Repr, Inhabited

mutual

inductive WordPart where
  | literal (text : ByteText) (quoted : Bool)
  | parameter (name : String) (change : Change) (word : List WordPart) (quoted : Bool)
  | output (script : List Command) (quoted : Bool)
  | calculation (word : List WordPart) (quoted : Bool)

inductive Redirect where
  | file (descriptor : Nat) (mode : OpenMode) (target : List WordPart)
  | duplicate (descriptor : Nat) (target : List WordPart)
  | document (descriptor : Nat) (number : Nat)

inductive Command where
  | simple (assignments : List (String × List WordPart)) (words : List (List WordPart))
      (redirects : List Redirect)
  | pipeline (commands : List Command)
  | negation (command : Command)
  | both (first second : Command)
  | either (first second : Command)
  | sequence (commands : List Command)
  | background (command : Command)
  | subshell (body : Command)
  | redirected (body : Command) (redirects : List Redirect)
  | conditional (test body : Command) (otherwise : Option Command)
  /-- Repeats the body as long as the test succeeds or, if `untilDone`, fails. -/
  | loop (untilDone : Bool) (test body : Command)
  | each (name : String) (words : Option (List (List WordPart))) (body : Command)
  | cases (subject : List WordPart) (clauses : List (List (List WordPart) × Option Command))
  | function (name : String) (body : Command)

end

instance : Inhabited WordPart := ⟨.literal [] false⟩

instance : Inhabited Command := ⟨.sequence []⟩

abbrev Word := List WordPart

def WordPart.isQuoted : WordPart → Bool
  | .literal _ quoted | .parameter _ _ _ quoted | .output _ quoted | .calculation _ quoted => quoted

def Word.plain? : Word → Option ByteText
  | [] => none
  | [.literal text false] => some text
  | _ => none

def isNameStart (c : Char) : Bool :=
  ('a' ≤ c && c ≤ 'z') || ('A' ≤ c && c ≤ 'Z') || c = '_'

def isDigit (c : Char) : Bool := '0' ≤ c && c ≤ '9'

def isNamePart (c : Char) : Bool :=
  isNameStart c || isDigit c

def isName : ByteText → Bool
  | [] => false
  | c :: rest => isNameStart c && rest.all isNamePart

def isBlank (c : Char) : Bool := c = ' ' || c = '\t'

end DeviceRig.Shell
