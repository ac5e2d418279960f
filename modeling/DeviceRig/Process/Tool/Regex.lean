import DeviceRig.Process.Shell.Pattern

/-!
Regular expressions as tools read them: in the basic form the operators stand behind backslashes, in
the extended form by themselves. A match is found by trying, the longest repetitions first; groups
tell which part of the text they matched.
-/
namespace DeviceRig.Shell

inductive Regex where
  | nothing
  | one (accepts : Char → Bool)
  | lineStart
  | lineEnd
  | wordEdge
  | group (number : Nat) (body : Regex)
  | sequence (first second : Regex)
  | either (first second : Regex)
  | repeated (least : Nat) (most : Option Nat) (body : Regex)
  | back (number : Nat)

instance : Inhabited Regex := ⟨.nothing⟩

/-- A place in a text, with the character before it and the groups matched so far. -/
structure RegexPlace where
  before : Option Char
  rest : ByteText
  position : Nat
  groups : List (Nat × Nat × Nat)
deriving Inhabited

namespace Regex

def isWord (c : Char) : Bool := isNamePart c

def advance (place : RegexPlace) : RegexPlace :=
  match place.rest with
  | [] => place
  | c :: rest => { place with before := some c, rest, position := place.position + 1 }

def advanceBy (place : RegexPlace) : Nat → RegexPlace
  | 0 => place
  | count + 1 => advanceBy (advance place) count

def attempt (whole : ByteText) (ignoresCase : Bool) :
    Nat → Regex → RegexPlace → (RegexPlace → Option RegexPlace) → Option RegexPlace
  | 0, _, _, _ => none
  | fuel + 1, regex, place, next =>
    match regex with
    | .nothing => next place
    | .one accepts =>
      match place.rest with
      | [] => none
      | c :: _ =>
        if accepts c || (ignoresCase && (accepts c.toLower || accepts c.toUpper)) then
          next (advance place)
        else none
    | .lineStart => if place.before.isNone then next place else none
    | .lineEnd => if place.rest.isEmpty then next place else none
    | .wordEdge =>
      if place.before.any isWord != place.rest.head?.any isWord then next place else none
    | .group number body =>
      attempt whole ignoresCase fuel body place fun after =>
        next { after with groups := (number, place.position, after.position) :: after.groups }
    | .sequence first second =>
      attempt whole ignoresCase fuel first place fun middle =>
        attempt whole ignoresCase fuel second middle next
    | .either first second =>
      match attempt whole ignoresCase fuel first place next with
      | some found => some found
      | none => attempt whole ignoresCase fuel second place next
    | .repeated least most body =>
      let again : Option RegexPlace :=
        if most = some 0 then none
        else
          attempt whole ignoresCase fuel body place fun after =>
            if after.position = place.position && least = 0 then none
            else attempt whole ignoresCase fuel
              (.repeated (least - 1) (most.map (· - 1)) body) after next
      match again with
      | some found => some found
      | none => if least = 0 then next place else none
    | .back number =>
      match place.groups.lookup number with
      | none => none
      | some (start, stop) =>
        let text := (whole.drop start).take (stop - start)
        if text.isPrefixOf place.rest then next (advanceBy place text.length) else none

structure Match where
  start : Nat
  stop : Nat
  groups : List (Nat × Nat × Nat)
deriving Inhabited

def matchDepth (text : ByteText) : Nat := 100 * (text.length + 10)

def matchAt (regex : Regex) (ignoresCase : Bool) (whole : ByteText) (place : RegexPlace) :
    Option Match :=
  (attempt whole ignoresCase (matchDepth whole) regex place some).map fun after =>
    ⟨place.position, after.position, after.groups⟩

def matchFrom (regex : Regex) (ignoresCase : Bool) (whole : ByteText) :
    Nat → RegexPlace → Option Match
  | 0, place => regex.matchAt ignoresCase whole place
  | places + 1, place =>
    match regex.matchAt ignoresCase whole place with
    | some found => some found
    | none =>
      if place.rest.isEmpty then none
      else matchFrom regex ignoresCase whole places (advance place)

def search (regex : Regex) (ignoresCase : Bool) (text : ByteText) (start : Nat) : Option Match :=
  let place := advanceBy ⟨none, text, 0, []⟩ start
  regex.matchFrom ignoresCase text (text.length + 1) place

/-! Reading -/

def bracket (text : ByteText) : Option ((Char → Bool) × ByteText) :=
  let (negated, inside) := match text with
    | '^' :: inside => (true, inside)
    | _ => (false, text)
  match bracketMembers true (inside.length + 1) (inside.map fun c => (c, false)) with
  | some (members, after) =>
    some ((PatternItem.oneOf negated members).accepts, after.map Prod.fst)
  | none => none

def bounds (closing : ByteText) (text : ByteText) :
    Option (Nat × Option Nat × ByteText) :=
  let number (digits : ByteText) : Nat := (String.ofList digits).toNat?.getD 0
  let least := text.takeWhile isDigit
  let behind := text.drop least.length
  let (most, behind) : Option Nat × ByteText := match behind with
    | ',' :: rest =>
      let digits := rest.takeWhile isDigit
      (if digits.isEmpty then none else some (number digits), rest.drop digits.length)
    | _ => (some (number least), behind)
  if closing.isPrefixOf behind then some (number least, most, behind.drop closing.length)
  else none

/-- What reading has taken: an expression, the number of the next group, and what is left. -/
abbrev Reading := Option (Regex × Nat × ByteText)

def operatorChars : List Char := ['(', ')', '{', '}', '|', '+', '?']

/-- An operator at the start of a text, without the backslash that the form asks for. -/
def operatorAt (extended : Bool) : ByteText → Option (Char × ByteText)
  | '\\' :: c :: rest =>
    if extended then none else if operatorChars.contains c then some (c, rest) else none
  | c :: rest => if extended && operatorChars.contains c then some (c, rest) else none
  | [] => none

mutual

def alternatives (extended : Bool) (group : Nat) : Nat → ByteText → Reading
  | 0, _ => none
  | fuel + 1, text =>
    match concatenation extended group true fuel text with
    | none => none
    | some (first, group, rest) =>
      match operatorAt extended rest with
      | some ('|', rest) =>
        (alternatives extended group fuel rest).map fun (second, group, rest) =>
          (.either first second, group, rest)
      | _ => some (first, group, rest)

def concatenation (extended : Bool) (group : Nat) (isFirst : Bool) : Nat → ByteText → Reading
  | 0, _ => none
  | fuel + 1, text =>
    match operatorAt extended text, text with
    | _, [] => some (.nothing, group, [])
    | some ('|', _), _ => some (.nothing, group, text)
    | some (')', _), _ => some (.nothing, group, text)
    | _, _ =>
      match atom extended group isFirst fuel text with
      | none => none
      | some (first, group, rest) =>
        match repetitions extended first fuel rest with
        | none => none
        | some (first, rest) =>
          (concatenation extended group false fuel rest).map fun (others, group, rest) =>
            (.sequence first others, group, rest)

def repetitions (extended : Bool) (body : Regex) : Nat → ByteText → Option (Regex × ByteText)
  | 0, _ => none
  | fuel + 1, text =>
    match text, operatorAt extended text with
    | '*' :: rest, _ => repetitions extended (.repeated 0 none body) fuel rest
    | _, some ('+', rest) => repetitions extended (.repeated 1 none body) fuel rest
    | _, some ('?', rest) => repetitions extended (.repeated 0 (some 1) body) fuel rest
    | _, some ('{', rest) =>
      match bounds (if extended then ['}'] else ['\\', '}']) rest with
      | some (least, most, rest) => repetitions extended (.repeated least most body) fuel rest
      | none => none
    | _, _ => some (body, text)

def atom (extended : Bool) (group : Nat) (isFirst : Bool) : Nat → ByteText → Reading
  | 0, _ => none
  | fuel + 1, text =>
    match operatorAt extended text with
    | some ('(', rest) =>
      match alternatives extended (group + 1) fuel rest with
      | none => none
      | some (body, next, rest) =>
        match operatorAt extended rest with
        | some (')', rest) => some (.group group body, next, rest)
        | _ => none
    | _ =>
      let plain (accepts : Char → Bool) (rest : ByteText) : Reading :=
        some (.one accepts, group, rest)
      match text with
      | [] => none
      | '.' :: rest => plain (fun _ => true) rest
      | '[' :: rest => (bracket rest).map fun (accepts, rest) => (.one accepts, group, rest)
      | '^' :: rest =>
        if extended || isFirst then some (.lineStart, group, rest) else plain (· = '^') rest
      | '$' :: rest =>
        let ends := rest.isEmpty || extended ||
          (operatorAt extended rest).any fun operator => operator.1 = ')' || operator.1 = '|'
        if ends then some (.lineEnd, group, rest) else plain (· = '$') rest
      | '\\' :: c :: rest =>
        match c with
        | 'w' => plain isWord rest
        | 'W' => plain (fun c => !isWord c) rest
        | 's' => plain (fun c => c = ' ' || ('\t' ≤ c && c ≤ '\r')) rest
        | 'S' => plain (fun c => !(c = ' ' || ('\t' ≤ c && c ≤ '\r'))) rest
        | 'b' | '<' | '>' => some (.wordEdge, group, rest)
        | 'n' => plain (· = '\n') rest
        | 't' => plain (· = '\t') rest
        | _ =>
          if isDigit c && c ≠ '0' then some (.back (c.toNat - '0'.toNat), group, rest)
          else plain (· = c) rest
      | ['\\'] => none
      | c :: rest =>
        if c = '*' && extended && isFirst then plain (· = '*') rest
        else plain (· = c) rest

end

def parse? (extended : Bool) (text : ByteText) : Option Regex :=
  match alternatives extended 1 (8 * (text.length + 8)) text with
  | some (regex, _, []) => some regex
  | _ => none

end Regex

end DeviceRig.Shell
