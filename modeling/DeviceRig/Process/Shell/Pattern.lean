import DeviceRig.Process.Shell.Grammar

/-!
Patterns for texts and file names. A star stands for any text, a question mark for any character,
and brackets for one of their characters, ranges and classes; what is quoted stands for itself.
-/
namespace DeviceRig.Shell

inductive PatternItem where
  | literal (c : Char)
  | any
  | star
  | oneOf (negated : Bool) (members : List (Char → Bool))

namespace PatternItem

def accepts (item : PatternItem) (c : Char) : Bool :=
  match item with
  | .literal expected => c = expected
  | .any | .star => true
  | .oneOf negated members => (members.any fun holds => holds c) != negated

end PatternItem

def characterClass? (name : String) : Option (Char → Bool) :=
  let upper := fun c : Char => 'A' ≤ c && c ≤ 'Z'
  let lower := fun c : Char => 'a' ≤ c && c ≤ 'z'
  let letter := fun c => upper c || lower c
  let graph := fun c : Char => '!' ≤ c && c ≤ '~'
  match name with
  | "alpha" => some letter
  | "digit" => some isDigit
  | "alnum" => some fun c => letter c || isDigit c
  | "upper" => some upper
  | "lower" => some lower
  | "space" => some fun c => c = ' ' || ('\t' ≤ c && c ≤ '\r')
  | "blank" => some isBlank
  | "graph" => some graph
  | "print" => some fun c => c = ' ' || graph c
  | "punct" => some fun c => graph c && !letter c && !isDigit c
  | "cntrl" => some fun c => c < ' ' || c = '\x7f'
  | "xdigit" => some fun c => isDigit c || ('a' ≤ c && c ≤ 'f') || ('A' ≤ c && c ≤ 'F')
  | _ => none

abbrev PatternChar := Char × Bool

def className? : List PatternChar → Option (List Char × List PatternChar)
  | (':', _) :: (']', _) :: rest => some ([], rest)
  | (c, _) :: rest =>
    if isNameStart c then (className? rest).map fun (name, after) => (c :: name, after) else none
  | [] => none

/-- The members up to the closing bracket, and what follows it; none without a closing bracket. -/
def bracketMembers (isFirst : Bool) :
    Nat → List PatternChar → Option (List (Char → Bool) × List PatternChar)
  | 0, _ => none
  | _ + 1, [] => none
  | fuel + 1, (c, quoted) :: rest =>
    let go (member : Char → Bool) (after : List PatternChar) :=
      (bracketMembers false fuel after).map fun (members, left) => (member :: members, left)
    if c = ']' && !quoted && !isFirst then some ([], rest)
    else
      let named := match c, rest with
        | '[', (':', false) :: inside =>
          match className? inside with
          | some (name, after) =>
            (characterClass? (String.ofList name)).map fun holds => (holds, after)
          | none => none
        | _, _ => none
      match named with
      | some (holds, after) => go holds after
      | none =>
        match rest with
        | ('-', false) :: (last, lastQuoted) :: after =>
          if last = ']' && !lastQuoted then go (· = c) rest
          else go (fun x => c ≤ x && x ≤ last) after
        | _ => go (· = c) rest

def patternItems : Nat → List PatternChar → List PatternItem
  | 0, _ => []
  | _ + 1, [] => []
  | fuel + 1, (c, quoted) :: rest =>
    if quoted then .literal c :: patternItems fuel rest
    else
      match c with
      | '*' => .star :: patternItems fuel rest
      | '?' => .any :: patternItems fuel rest
      | '[' =>
        let (negated, inside) := match rest with
          | ('!', false) :: inside => (true, inside)
          | ('^', false) :: inside => (true, inside)
          | _ => (false, rest)
        match bracketMembers true (inside.length + 1) inside with
        | some (members, after) => .oneOf negated members :: patternItems fuel after
        | none => .literal c :: patternItems fuel rest
      | '\\' =>
        match rest with
        | (next, _) :: after => .literal next :: patternItems fuel after
        | [] => [.literal c]
      | _ => .literal c :: patternItems fuel rest

abbrev Pattern := List PatternItem

def Pattern.ofChars (text : List PatternChar) : Pattern :=
  patternItems (text.length + 1) text

def suffixes : ByteText → List ByteText
  | [] => [[]]
  | c :: rest => (c :: rest) :: suffixes rest

def Pattern.matchesAll : Pattern → ByteText → Bool
  | [], text => text.isEmpty
  | .star :: rest, text => (suffixes text).any fun left => Pattern.matchesAll rest left
  | _ :: _, [] => false
  | item :: rest, c :: text => item.accepts c && Pattern.matchesAll rest text

def Pattern.cutStart (longest : Bool) (pattern : Pattern) (text : ByteText) : ByteText :=
  let lengths := List.range (text.length + 1)
  let lengths := if longest then lengths.reverse else lengths
  match lengths.find? fun length => pattern.matchesAll (text.take length) with
  | some length => text.drop length
  | none => text

def Pattern.cutEnd (longest : Bool) (pattern : Pattern) (text : ByteText) : ByteText :=
  let lengths := List.range (text.length + 1)
  let lengths := if longest then lengths else lengths.reverse
  match lengths.find? fun length => pattern.matchesAll (text.drop length) with
  | some length => text.take length
  | none => text

def isPattern (text : List PatternChar) : Bool :=
  text.any fun (c, quoted) => !quoted && (c = '*' || c = '?' || c = '[')

end DeviceRig.Shell
