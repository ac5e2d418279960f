import DeviceRig.Process.Shell.Grammar

/-!
Calculations in shell scripts: integers of 64 bits with the operators of precedence, choices and
assignments. What is skipped by a condition is read but not calculated.
-/
namespace DeviceRig.Shell

inductive CalculationFlaw where
  | unreadable
  | divisionByZero
  | badNumber (text : ByteText)
deriving DecidableEq, Repr, Inhabited

inductive CalculationToken where
  | number (value : Int)
  | name (name : String)
  | operator (text : String)
deriving DecidableEq, Repr, Inhabited

inductive Calculation where
  | number (value : Int)
  | parameter (name : String)
  | unary (operator : String) (operand : Calculation)
  | binary (operator : String) (left right : Calculation)
  | choice (test yes no : Calculation)
  | assign (name operator : String) (value : Calculation)
deriving Repr, Inhabited

namespace Calculation

def wordCount : Nat := 18446744073709551616

def largest : Int := 9223372036854775807

def wrap (value : Int) : Int := Int.bmod value wordCount

def digitValue (c : Char) : Nat :=
  if isDigit c then c.toNat - '0'.toNat
  else if 'a' ≤ c && c ≤ 'z' then c.toNat - 'a'.toNat + 10
  else if 'A' ≤ c && c ≤ 'Z' then c.toNat - 'A'.toNat + 10
  else 36

def digitsIn (base : Nat) (text : ByteText) : Nat × ByteText :=
  let inBase := fun c => digitValue c < base
  ((text.takeWhile inBase).foldl (fun value c => value * base + digitValue c) 0,
    text.dropWhile inBase)

/-- The unsigned number that a text starts with, octal behind a zero and hexadecimal behind a zero
and an x, and what is left. -/
def magnitude (text : ByteText) : Nat × ByteText :=
  match text with
  | '0' :: x :: c :: rest =>
    if (x = 'x' || x = 'X') && digitValue c < 16 then digitsIn 16 (c :: rest)
    else digitsIn 8 text
  | '0' :: _ => digitsIn 8 text
  | _ => digitsIn 10 text

def isSpace (c : Char) : Bool :=
  c = ' ' || ('\t' ≤ c && c ≤ '\r')

def integer? (text : ByteText) : Except CalculationFlaw Int :=
  let start := text.dropWhile isSpace
  let (negative, digits) := match start with
    | '-' :: rest => (true, rest)
    | '+' :: rest => (false, rest)
    | _ => (false, start)
  let (value, rest) := magnitude digits
  let signed : Int := if negative then -(value : Int) else value
  if digits.isEmpty && !start.isEmpty then .error (.badNumber text)
  else if (digits.head?.any fun c => !isDigit c) then .error (.badNumber text)
  else if !rest.all isSpace then .error (.badNumber text)
  else if largest < signed || signed < -largest - 1 then .error (.badNumber text)
  else .ok signed

def operators : List String :=
  ["<<=", ">>=", "&&", "||", "<<", ">>", "<=", ">=", "==", "!=", "+=", "-=", "*=", "/=", "%=", "&=",
    "^=", "|=", "+", "-", "*", "/", "%", "<", ">", "=", "!", "~", "&", "^", "|", "?", ":", "(", ")"]

def tokens : Nat → ByteText → Except CalculationFlaw (List CalculationToken)
  | 0, _ => .ok []
  | _ + 1, [] => .ok []
  | steps + 1, c :: rest =>
    if isSpace c then tokens steps rest
    else if isDigit c then
      let (value, after) := magnitude (c :: rest)
      (tokens steps after).map fun more => .number (min value largest) :: more
    else if isNameStart c then
      let name := String.ofList (c :: rest.takeWhile isNamePart)
      (tokens steps (rest.dropWhile isNamePart)).map fun more => .name name :: more
    else
      match operators.find? fun operator => operator.toList.isPrefixOf (c :: rest) with
      | some operator =>
        (tokens steps ((c :: rest).drop operator.length)).map fun more => .operator operator :: more
      | none => .error .unreadable

def level? (operator : String) : Option Nat :=
  [["*", "/", "%"], ["+", "-"], ["<<", ">>"], ["<", "<=", ">", ">="], ["==", "!="], ["&"], ["^"],
    ["|"], ["&&"], ["||"]].findIdx? fun level => level.contains operator

def loosest : Nat := 9

/-- An operator that assigns: what it does to the old value, nothing for a plain one. -/
def assignment? (operator : String) : Option String :=
  match operator with
  | "=" => some ""
  | "+=" => some "+"
  | "-=" => some "-"
  | "*=" => some "*"
  | "/=" => some "/"
  | "%=" => some "%"
  | "<<=" => some "<<"
  | ">>=" => some ">>"
  | "&=" => some "&"
  | "^=" => some "^"
  | "|=" => some "|"
  | _ => none

abbrev Parse := Except CalculationFlaw (Calculation × List CalculationToken)

mutual

def assigning : Nat → List CalculationToken → Parse
  | 0, _ => .error .unreadable
  | fuel + 1, tokens =>
    match tokens with
    | .name name :: .operator operator :: rest =>
      match assignment? operator with
      | some operator => do
        let (value, rest) ← assigning fuel rest
        return (.assign name operator value, rest)
      | none => choosing fuel tokens
    | _ => choosing fuel tokens

def choosing : Nat → List CalculationToken → Parse
  | 0, _ => .error .unreadable
  | fuel + 1, tokens => do
    let (test, rest) ← binding loosest fuel tokens
    match rest with
    | .operator "?" :: rest =>
      let (yes, rest) ← assigning fuel rest
      match rest with
      | .operator ":" :: rest =>
        let (no, rest) ← choosing fuel rest
        return (.choice test yes no, rest)
      | _ => throw .unreadable
    | _ => return (test, rest)

def binding (level : Nat) : Nat → List CalculationToken → Parse
  | 0, _ => .error .unreadable
  | fuel + 1, tokens => do
    let (first, rest) ← match level with
      | 0 => operand fuel tokens
      | tighter + 1 => binding tighter fuel tokens
    following level first fuel rest

def following (level : Nat) (left : Calculation) : Nat → List CalculationToken → Parse
  | 0, _ => .error .unreadable
  | fuel + 1, tokens =>
    match tokens with
    | .operator operator :: rest =>
      if level? operator = some level then do
        let (right, rest) ← match level with
          | 0 => operand fuel rest
          | tighter + 1 => binding tighter fuel rest
        following level (.binary operator left right) fuel rest
      else .ok (left, tokens)
    | _ => .ok (left, tokens)

def operand : Nat → List CalculationToken → Parse
  | 0, _ => .error .unreadable
  | fuel + 1, tokens =>
    match tokens with
    | .number value :: rest => .ok (.number value, rest)
    | .name name :: rest => .ok (.parameter name, rest)
    | .operator "(" :: rest => do
      let (inside, rest) ← assigning fuel rest
      match rest with
      | .operator ")" :: rest => return (inside, rest)
      | _ => throw .unreadable
    | .operator operator :: rest =>
      if ["+", "-", "!", "~"].contains operator then do
        let (inside, rest) ← operand fuel rest
        return (.unary operator inside, rest)
      else .error .unreadable
    | [] => .error .unreadable

end

def parse (text : ByteText) : Except CalculationFlaw Calculation := do
  let tokens ← tokens (text.length + 1) text
  let (result, rest) ← assigning (16 * (tokens.length + 1)) tokens
  if rest.isEmpty then return result else throw .unreadable

def bits (value : Int) : Nat := (value % (wordCount : Int)).toNat

def truth (value : Bool) : Int := if value then 1 else 0

def combine (operator : String) (a b : Int) : Except CalculationFlaw Int :=
  let shift := (b % 64).toNat
  match operator with
  | "+" => .ok (wrap (a + b))
  | "-" => .ok (wrap (a - b))
  | "*" => .ok (wrap (a * b))
  | "/" => if b = 0 then .error .divisionByZero else .ok (wrap (Int.tdiv a b))
  | "%" => if b = 0 then .error .divisionByZero else .ok (Int.tmod a b)
  | "<<" => .ok (wrap (a * (Nat.pow 2 shift : Nat)))
  | ">>" => .ok (Int.fdiv a (Nat.pow 2 shift : Nat))
  | "<" => .ok (truth (a < b))
  | "<=" => .ok (truth (a ≤ b))
  | ">" => .ok (truth (b < a))
  | ">=" => .ok (truth (b ≤ a))
  | "==" => .ok (truth (a = b))
  | "!=" => .ok (truth (a ≠ b))
  | "&" => .ok (wrap (bits a &&& bits b : Nat))
  | "^" => .ok (wrap (bits a ^^^ bits b : Nat))
  | "|" => .ok (wrap (bits a ||| bits b : Nat))
  | _ => .ok b

abbrev Assigned := List (String × Int)

def evaluate (lookup : String → ByteText) (assigned : Assigned) :
    Calculation → Except CalculationFlaw (Int × Assigned)
  | .number value => .ok (value, assigned)
  | .parameter name =>
    match assigned.lookup name with
    | some value => .ok (value, assigned)
    | none => (integer? (lookup name)).map fun value => (value, assigned)
  | .unary operator operand => do
    let (value, assigned) ← evaluate lookup assigned operand
    match operator with
    | "-" => return (wrap (-value), assigned)
    | "!" => return (truth (value = 0), assigned)
    | "~" => return (-value - 1, assigned)
    | _ => return (value, assigned)
  | .binary operator left right => do
    let (a, assigned) ← evaluate lookup assigned left
    if operator = "&&" && a = 0 then return (0, assigned)
    else if operator = "||" && a ≠ 0 then return (1, assigned)
    else
      let (b, assigned) ← evaluate lookup assigned right
      if operator = "&&" || operator = "||" then return (truth (b ≠ 0), assigned)
      else return (← combine operator a b, assigned)
  | .choice test yes no => do
    let (value, assigned) ← evaluate lookup assigned test
    if value ≠ 0 then evaluate lookup assigned yes else evaluate lookup assigned no
  | .assign name operator value => do
    let (new, assigned) ← evaluate lookup assigned value
    if operator.isEmpty then return (new, (name, new) :: assigned)
    else
      let old ← match assigned.lookup name with
        | some old => pure old
        | none => integer? (lookup name)
      let result ← combine operator old new
      return (result, (name, result) :: assigned)

end Calculation

def CalculationFlaw.message (flaw : CalculationFlaw) (text : ByteText) : String :=
  match flaw with
  | .unreadable => "arithmetic expression: expecting primary: \"" ++ text.toText ++ "\""
  | .divisionByZero => "arithmetic expression: division by zero: \"" ++ text.toText ++ "\""
  | .badNumber number => "Illegal number: " ++ number.toText

end DeviceRig.Shell
