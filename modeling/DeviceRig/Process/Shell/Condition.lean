import DeviceRig.Process.Shell.Machine
import DeviceRig.Process.Shell.Arithmetic

/-!
Conditions on texts, numbers and files. A condition is a row of words; what an operator is and what
an operand depends on how many words follow.
-/
namespace DeviceRig.Shell

inductive ConditionFlaw where
  | unexpected (word : ByteText)
  | argumentExpected (operator : ByteText)
  | closingExpected
  | badNumber (word : ByteText)
  | missingBracket
deriving DecidableEq, Repr, Inhabited

def ConditionFlaw.message : ConditionFlaw → String
  | .unexpected word => word.toText ++ ": unexpected operator"
  | .argumentExpected operator => operator.toText ++ ": argument expected"
  | .closingExpected => "closing paren expected"
  | .badNumber word => "Illegal number: " ++ word.toText
  | .missingBracket => "missing ]"

inductive ConditionToken where
  | unary (name : String)
  | binary (name : String)
  | negation
  | both
  | either
  | opening
  | closing
  | operand
  | ending
deriving DecidableEq, Repr

namespace Condition

def unaryOperators : List String :=
  ["-r", "-w", "-x", "-e", "-f", "-d", "-c", "-b", "-p", "-u", "-g", "-k", "-s", "-t", "-z", "-n",
    "-h", "-O", "-G", "-L", "-S"]

def binaryOperators : List String :=
  ["=", "!=", "<", ">", "-eq", "-ne", "-ge", "-gt", "-le", "-lt", "-nt", "-ot", "-ef"]

def operatorOf? (word : ByteText) : Option ConditionToken :=
  let name := String.ofList word
  if unaryOperators.contains name then some (.unary name)
  else if binaryOperators.contains name then some (.binary name)
  else match name with
    | "!" => some .negation
    | "-a" => some .both
    | "-o" => some .either
    | "(" => some .opening
    | ")" => some .closing
    | _ => none

def isBinary (word : ByteText) : Bool :=
  binaryOperators.contains (String.ofList word)

/-- What the first of some words is. The name of an operator of one side is an operand if nothing
follows it, or an operator of two sides with something behind that. -/
def tokenOf : List ByteText → ConditionToken
  | [] => .ending
  | word :: rest =>
    match operatorOf? word with
    | some (.unary name) =>
      match rest with
      | [] => .operand
      | [_] => .unary name
      | next :: _ => if isBinary next then .operand else .unary name
    | some .opening => if rest.isEmpty then .operand else .opening
    | some token => token
    | none => .operand

def number (word : ByteText) : Except ConditionFlaw Int :=
  let start := word.dropWhile Calculation.isSpace
  let (negative, digits) := match start with
    | '-' :: rest => (true, rest)
    | '+' :: rest => (false, rest)
    | _ => (false, start)
  let (value, rest) := Calculation.digitsIn 10 digits
  let signed : Int := if negative then -(value : Int) else value
  let isWithin := -Calculation.largest - 1 ≤ signed && signed ≤ Calculation.largest
  if (digits.head?.all fun c => !isDigit c) || !rest.all Calculation.isSpace || !isWithin then
    .error (.badNumber word)
  else .ok signed

structure Surroundings where
  files : FileTree
  place : ByteText → String

namespace Surroundings

def node? (around : Surroundings) (follow : Bool) (path : ByteText) : Option FileEntry :=
  match around.files.entryAt follow (around.place path) with
  | .ok (_, entry) => some entry
  | .error _ => none

def holdsFor (around : Surroundings) (operator : String) (path : ByteText) : Bool :=
  match around.node? (operator ≠ "-h" && operator ≠ "-L") path with
  | none => (Script.descriptorPath? (around.place path)).isSome && operator = "-e"
  | some entry =>
    match operator, entry.node with
    | "-e", _ | "-r", _ | "-w", _ | "-O", _ | "-G", _ => true
    | "-f", .regular _ => true
    | "-d", .directory => true
    | "-c", .device _ | "-c", .terminal => true
    | "-h", .symlink _ | "-L", .symlink _ => true
    | "-S", .socket => true
    | "-s", .regular content => !content.isEmpty
    | "-s", .directory => true
    | "-x", .directory => true
    | "-x", _ => entry.mode &&& 0o111 ≠ 0
    | "-u", _ => entry.mode &&& 0o4000 ≠ 0
    | "-g", _ => entry.mode &&& 0o2000 ≠ 0
    | "-k", _ => entry.mode &&& 0o1000 ≠ 0
    | _, _ => false

def compares (around : Surroundings) (operator : String) (first second : ByteText) : Bool :=
  match operator, around.node? true first, around.node? true second with
  | "-nt", some a, some b => b.inode < a.inode
  | "-ot", some a, some b => a.inode < b.inode
  | "-ef", some a, some b => a.inode = b.inode
  | "-nt", some _, none => true
  | "-ot", none, some _ => true
  | _, _, _ => false

end Surroundings

def unary (around : Surroundings) (operator : String) (operand : ByteText) :
    Except ConditionFlaw Bool :=
  match operator with
  | "-z" => .ok operand.isEmpty
  | "-n" => .ok !operand.isEmpty
  | "-t" => (number operand).map fun _ => false
  | _ => .ok (around.holdsFor operator operand)

def binary (around : Surroundings) (operator : String) (first second : ByteText) :
    Except ConditionFlaw Bool :=
  let compare (holds : Int → Int → Bool) : Except ConditionFlaw Bool := do
    return holds (← number first) (← number second)
  match operator with
  | "=" => .ok (first = second)
  | "!=" => .ok (first ≠ second)
  | "<" => .ok (first < second)
  | ">" => .ok (second < first)
  | "-eq" => compare fun a b => a = b
  | "-ne" => compare fun a b => a ≠ b
  | "-ge" => compare fun a b => b ≤ a
  | "-gt" => compare fun a b => b < a
  | "-le" => compare fun a b => a ≤ b
  | "-lt" => compare fun a b => a < b
  | _ => .ok (around.compares operator first second)

abbrev Found := Except ConditionFlaw (Bool × List ByteText)

mutual

def alternatives (around : Surroundings) (sofar : Bool) :
    Nat → ConditionToken → List ByteText → Found
  | 0, _, words => .ok (sofar, words)
  | fuel + 1, token, words => do
    let (holds, words) ← conjunction around true fuel token words
    let sofar := sofar || holds
    if tokenOf (words.drop 1) = .either then
      let words := words.drop 2
      alternatives around sofar fuel (tokenOf words) words
    else return (sofar, words)

def conjunction (around : Surroundings) (sofar : Bool) :
    Nat → ConditionToken → List ByteText → Found
  | 0, _, words => .ok (sofar, words)
  | fuel + 1, token, words => do
    let (holds, words) ← negated around fuel token words
    let sofar := sofar && holds
    if tokenOf (words.drop 1) = .both then
      let words := words.drop 2
      conjunction around sofar fuel (tokenOf words) words
    else return (sofar, words)

def negated (around : Surroundings) : Nat → ConditionToken → List ByteText → Found
  | 0, _, words => .ok (false, words)
  | fuel + 1, token, words => do
    if token = .negation then
      let next := tokenOf (words.drop 1)
      let words := if next = .ending then words else words.drop 1
      let (holds, words) ← negated around fuel next words
      return (!holds, words)
    else primary around fuel token words

def primary (around : Surroundings) : Nat → ConditionToken → List ByteText → Found
  | 0, _, words => .ok (false, words)
  | fuel + 1, token, words =>
    match token, words with
    | .ending, _ => .ok (false, words)
    | .opening, _ :: inside => do
      let next := tokenOf inside
      if next = .closing then return (false, inside)
      let (holds, rest) ← alternatives around false fuel next inside
      let rest := rest.drop 1
      if tokenOf rest = .closing then return (holds, rest) else throw .closingExpected
    | .unary name, _ :: operand :: rest => do
      return (← unary around name operand, operand :: rest)
    | .unary name, _ => throw (.argumentExpected name.toList)
    | _, first :: rest =>
      match tokenOf rest with
      | .binary name =>
        match rest.drop 1 with
        | second :: after => do
          return (← binary around name first second, second :: after)
        | [] => throw (.argumentExpected name.toList)
      | _ => .ok (!first.isEmpty, words)
    | _, [] => .ok (false, words)

end

/-- Whether all words make a condition that holds, the first of which is such a token. -/
def whole (around : Surroundings) (token : ConditionToken) (words : List ByteText) :
    Except ConditionFlaw Bool := do
  let (holds, rest) ← alternatives around false (4 * words.length + 8) token words
  match rest with
  | word :: _ :: _ => throw (.unexpected word)
  | _ => return holds

/-- Whether a condition of some words holds. Three words with an operator of two sides in the
middle are a comparison whatever they look like. Before three or four words, negations are taken
off first, all of which count as one; parentheses around as many words come second. -/
def holdsIf (around : Surroundings) : Bool → List ByteText → Except ConditionFlaw Bool
  | negated, [] => .ok negated
  | negated, word :: rest =>
    let words := word :: rest
    let isShort := words.length = 3 || words.length = 4
    let answer (found : Except ConditionFlaw Bool) := found.map (· != negated)
    if words.length = 3 && (words[1]?.any isBinary) then answer (whole around .operand words)
    else if isShort && word = ['('] && words.getLast? = some [')'] then
      answer (whole around (tokenOf rest.dropLast) rest.dropLast)
    else if isShort && word = ['!'] then holdsIf around true rest
    else answer (whole around (tokenOf words) words)

/-- Whether a condition holds that was called by a name, which may ask for a closing bracket. -/
def holdsAs (around : Surroundings) (name : ByteText) (words : List ByteText) :
    Except ConditionFlaw Bool :=
  if name.head? = some '[' then
    if words.getLast? = some [']'] then holdsIf around false words.dropLast
    else .error .missingBracket
  else holdsIf around false words

end Condition

end DeviceRig.Shell
