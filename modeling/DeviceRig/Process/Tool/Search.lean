import DeviceRig.Process.Tool.Basic
import DeviceRig.Process.Tool.Regex

/-!
Tools that search for expressions and calculate: the lines that match, the edits of a stream of
lines, and the value of an expression of words.
-/
namespace DeviceRig.Shell.Tool

open Script

/-! Lines that match -/

def plainExpression (text : ByteText) : Regex :=
  text.foldr (fun c rest => .sequence (.one (· = c)) rest) .nothing

def isWholeWord (text : ByteText) (found : Regex.Match) : Bool :=
  let isEdge (c? : Option Char) := !c?.any Regex.isWord
  isEdge (if found.start = 0 then none else text[found.start - 1]?) && isEdge text[found.stop]?

structure LineSearch where
  patterns : List Regex
  ignoresCase : Bool
  wholeLines : Bool
  wholeWords : Bool

namespace LineSearch

def find? (search : LineSearch) (line : ByteText) (start : Nat) : Nat → Option Regex.Match
  | 0 => none
  | count + 1 =>
    let found := search.patterns.filterMap fun pattern =>
      pattern.search search.ignoresCase line start
    let best := found.foldl (fun (best : Option Regex.Match) one =>
      match best with
      | some best =>
        if one.start < best.start || (one.start = best.start && best.stop < one.stop) then some one
        else some best
      | none => some one) none
    match best with
    | none => none
    | some best =>
      if search.wholeLines && (best.start ≠ 0 || best.stop ≠ line.length) then none
      else if search.wholeWords && !isWholeWord line best then
        if line.length ≤ best.start then none else search.find? line (best.start + 1) count
      else some best

def isIn (search : LineSearch) (line : ByteText) : Bool :=
  (search.find? line 0 (line.length + 1)).isSome

def parts (search : LineSearch) (line : ByteText) : Nat → Nat → List ByteText
  | 0, _ => []
  | count + 1, start =>
    match search.find? line start (line.length + 1) with
    | none => []
    | some found =>
      let text := (line.drop found.start).take (found.stop - found.start)
      if text.isEmpty then
        if line.length ≤ found.start then [] else search.parts line count (found.start + 1)
      else text :: search.parts line count found.stop

end LineSearch

def searchLines (command : String) (extended plain : Bool) (arguments : List ByteText) :
    Script Nat :=
  withOptions command "qvcinEFGoxwlLhHse:f:m:rRaA:B:C:" [("quiet", 'q'), ("invert-match", 'v'),
      ("count", 'c'), ("ignore-case", 'i'), ("line-number", 'n'), ("only-matching", 'o')] 2
      arguments fun given => do
    let kind := given.last? ['E', 'F', 'G']
    let extended := if kind.isSome then kind = some 'E' else extended
    let plain := if kind.isSome then kind = some 'F' else plain
    let given_ := (given.letters.filter fun entry => entry.1 = 'e').map Prod.snd
    let (texts, operands) := match given_, given.operands with
      | [], first :: rest => ([first], rest)
      | texts, operands => (texts, operands)
    if texts.isEmpty then
      warn command "Usage: grep [OPTION]... PATTERNS [FILE]..."
      return 2
    else
      let lines := texts.flatMap fun text => if text.isEmpty then [[]] else linesOf text
      let whole (text : ByteText) : Option Regex :=
        let parsed? := if plain then some (plainExpression text) else Regex.parse? extended text
        parsed?.map fun regex =>
          if given.has 'x' then
            .sequence .lineStart (.sequence (.group 0 regex) .lineEnd)
          else regex
      match lines.mapM whole with
      | none =>
        warn command "Invalid regular expression"
        return 2
      | some patterns =>
        let search : LineSearch := ⟨patterns, given.has 'i', false, given.has 'w'⟩
        let operands := inputsOf operands
        let isTitled := (1 < operands.length && !given.has 'h') || given.has 'H'
        let limit := (given.value? 'm').bind natural?
        let mut matched := false
        let mut failed := false
        for operand in operands do
          let read ← match ← inputOf operand with
            | .ok channel => readFrom channel
            | .error fault => pure (.error fault)
          match read with
          | .error fault =>
            if !given.has 's' then warn command s!"{operand.toText}: {fault.reason}"
            failed := true
          | .ok text =>
            let title : ByteText :=
              if isStandardInput operand then "(standard input)".toList else operand
            let label := if isTitled then title ++ [':'] else []
            let hits := ((linesOf text).zipIdx.filter fun (line, _) =>
              search.isIn line != given.has 'v')
            let hits := match limit with
              | some limit => hits.take limit
              | none => hits
            if !hits.isEmpty then matched := true
            if given.has 'q' then pure ()
            else if given.has 'l' then
              if !hits.isEmpty then say (title ++ ['\n'])
            else if given.has 'L' then
              if hits.isEmpty then say (title ++ ['\n'])
            else if given.has 'c' then say (label ++ decimal hits.length ++ ['\n'])
            else
              for (line, index) in hits do
                let number := if given.has 'n' then decimal (index + 1) ++ [':'] else []
                if given.has 'o' then
                  if !given.has 'v' then
                    for part in search.parts line (line.length + 1) 0 do
                      say (label ++ number ++ part ++ ['\n'])
                else say (label ++ number ++ line ++ ['\n'])
        if matched && given.has 'q' then return 0
        else if failed then return 2
        else printed command (if matched then 0 else 1)

/-! Edits -/

inductive LineAddress where
  | number (line : Nat)
  | last
  | holding (pattern : Regex)

inductive EditAction where
  | substitute (pattern : Regex) (image : ByteText) (all : Bool) (place : Nat) (ignoresCase : Bool)
      (prints : Bool)
  | print
  | delete
  | quit (status : Nat)
  | showNumber
  | map (members images : ByteText)
  | insert (text : ByteText)
  | append (text : ByteText)
  | change (text : ByteText)
  | next
  | keep (adds : Bool)
  | recall (adds : Bool)
  | exchange
  | nothing

/-- An edit: its lines, from one address to another if there are two, or all others. -/
structure Edit where
  first : Option LineAddress
  second : Option LineAddress
  negated : Bool
  action : EditAction

namespace Edit

def upTo (delimiter : Char) : ByteText → Option (ByteText × ByteText)
  | [] => none
  | '\\' :: c :: rest =>
    (upTo delimiter rest).map fun (text, after) =>
      (if c = delimiter then c :: text else '\\' :: c :: text, after)
  | c :: rest =>
    if c = delimiter then some ([], rest)
    else (upTo delimiter rest).map fun (text, after) => (c :: text, after)

def address? (extended : Bool) (text : ByteText) : Option (Option LineAddress × ByteText) :=
  match text with
  | '$' :: rest => some (some .last, rest)
  | '/' :: rest =>
    match upTo '/' rest with
    | some (pattern, after) =>
      (Regex.parse? extended pattern).map fun pattern => (some (.holding pattern), after)
    | none => none
  | _ =>
    let digits := text.takeWhile isDigit
    match natural? digits with
    | some line => some (some (.number line), text.drop digits.length)
    | none => some (none, text)

/-- The flags behind a substitution: for all, for which, for any case, and whether to print. -/
def flags (all : Bool) (place : Nat) (ignoresCase prints : Bool) :
    Nat → ByteText → (Bool × Nat × Bool × Bool) × ByteText
  | 0, text => ((all, place, ignoresCase, prints), text)
  | count + 1, text =>
    match text with
    | 'g' :: rest => flags true place ignoresCase prints count rest
    | 'p' :: rest => flags all place ignoresCase true count rest
    | 'i' :: rest | 'I' :: rest => flags all place true prints count rest
    | c :: rest =>
      if isDigit c then
        let digits := (c :: rest).takeWhile isDigit
        flags all ((natural? digits).getD 1) ignoresCase prints count
          ((c :: rest).drop digits.length)
      else ((all, place, ignoresCase, prints), text)
    | [] => ((all, place, ignoresCase, prints), [])

def textArgument (text : ByteText) : ByteText × ByteText :=
  let start := text.dropWhile isBlank
  let start := match start with
    | '\\' :: rest => (rest.dropWhile isBlank).dropWhile (· = '\n')
    | _ => start
  let line := start.takeWhile (· ≠ '\n')
  (line, start.drop line.length)

def action? (extended : Bool) : ByteText → Option (EditAction × ByteText)
  | 's' :: delimiter :: rest =>
    match upTo delimiter rest with
    | none => none
    | some (pattern, rest) =>
      match upTo delimiter rest, Regex.parse? extended pattern with
      | some (image, rest), some pattern =>
        let ((all, place, ignoresCase, prints), rest) :=
          flags false 1 false false (rest.length + 1) rest
        some (.substitute pattern image all place ignoresCase prints, rest)
      | _, _ => none
  | 'y' :: delimiter :: rest =>
    match upTo delimiter rest with
    | none => none
    | some (members, rest) =>
      match upTo delimiter rest with
      | some (images, rest) =>
        if members.length = images.length then some (.map members images, rest) else none
      | none => none
  | 'p' :: rest => some (.print, rest)
  | 'd' :: rest => some (.delete, rest)
  | '=' :: rest => some (.showNumber, rest)
  | 'n' :: rest => some (.next, rest)
  | 'h' :: rest => some (.keep false, rest)
  | 'H' :: rest => some (.keep true, rest)
  | 'g' :: rest => some (.recall false, rest)
  | 'G' :: rest => some (.recall true, rest)
  | 'x' :: rest => some (.exchange, rest)
  | 'i' :: rest =>
    let (text, rest) := textArgument rest
    some (.insert text, rest)
  | 'a' :: rest =>
    let (text, rest) := textArgument rest
    some (.append text, rest)
  | 'c' :: rest =>
    let (text, rest) := textArgument rest
    some (.change text, rest)
  | 'q' :: rest | 'Q' :: rest =>
    let rest := rest.dropWhile isBlank
    let digits := rest.takeWhile isDigit
    some (.quit ((natural? digits).getD 0), rest.drop digits.length)
  | '#' :: rest => some (.nothing, rest.dropWhile (· ≠ '\n'))
  | _ => none

def parse? (extended : Bool) : Nat → ByteText → Option (List Edit)
  | 0, _ => some []
  | count + 1, text =>
    match text.dropWhile fun c => isBlank c || c = ';' || c = '\n' with
    | [] => some []
    | start =>
      match address? extended start with
      | none => none
      | some (first, rest) =>
        let second? : Option (Option LineAddress × ByteText) := match rest with
          | ',' :: rest => address? extended (rest.dropWhile isBlank)
          | _ => some (none, rest)
        match second? with
        | none => none
        | some (second, rest) =>
          let rest := rest.dropWhile isBlank
          let negated := rest.head? = some '!'
          let rest := (if negated then rest.drop 1 else rest).dropWhile isBlank
          match action? extended rest with
          | none => none
          | some (action, rest) =>
            let rest := rest.dropWhile isBlank
            if rest.isEmpty || rest.head? = some ';' || rest.head? = some '\n' then
              (parse? extended count rest).map fun edits =>
                ⟨first, second, negated, action⟩ :: edits
            else none

/-- The image of a match: an ampersand stands for all of it, digits behind backslashes for
groups. -/
def imageOf (line : ByteText) (found : Regex.Match) : ByteText → ByteText
  | [] => []
  | '\\' :: c :: rest =>
    if isDigit c then
      let number := c.toNat - '0'.toNat
      let part := if number = 0 then some (found.start, found.stop) else found.groups.lookup number
      (match part with
        | some (start, stop) => (line.drop start).take (stop - start)
        | none => []) ++ imageOf line found rest
    else if c = 'n' then '\n' :: imageOf line found rest
    else if c = 't' then '\t' :: imageOf line found rest
    else c :: imageOf line found rest
  | '&' :: rest =>
    (line.drop found.start).take (found.stop - found.start) ++ imageOf line found rest
  | c :: rest => c :: imageOf line found rest

def substituted (pattern : Regex) (image line : ByteText) (all ignoresCase : Bool) :
    Nat → Nat → Nat → ByteText × Bool
  | 0, _, start => (line.drop start, false)
  | count + 1, place, start =>
    match pattern.search ignoresCase line start with
    | none => (line.drop start, false)
    | some found =>
      let before := (line.drop start).take (found.start - start)
      let text := (line.drop found.start).take (found.stop - found.start)
      let isEmpty := found.stop = found.start
      let next := if isEmpty then found.stop + 1 else found.stop
      let passed := if isEmpty then (line.drop found.stop).take 1 else []
      let goesOn := found.stop < line.length || !isEmpty
      if 1 < place then
        if goesOn then
          let (rest, done) := substituted pattern image line all ignoresCase count (place - 1) next
          (before ++ text ++ passed ++ rest, done)
        else (line.drop start, false)
      else
        let made := before ++ imageOf line found image
        if all && goesOn && found.stop < line.length then
          let (rest, _) := substituted pattern image line all ignoresCase count 1 next
          (made ++ passed ++ rest, true)
        else (made ++ line.drop found.stop, true)

end Edit

/-- The state of editing: the line, its number, whether it is the last, the lines after it, the text
that is kept, the edits whose ranges are open, what was printed, and what is to follow the line. -/
structure EditState where
  line : ByteText
  number : Nat
  later : List ByteText
  kept : ByteText
  openRanges : List Nat
  output : Array ByteText
  appended : List ByteText
deriving Inhabited

namespace EditState

def fits (state : EditState) : LineAddress → Bool
  | .number line => state.number = line
  | .last => state.later.isEmpty
  | .holding pattern => (pattern.search false state.line 0).isSome

/-- Whether an edit of an index is for the line; a range is opened and closed on the way. -/
def selects (state : EditState) (index : Nat) (edit : Edit) : Bool × EditState :=
  match edit.first, edit.second with
  | none, _ => (!edit.negated, state)
  | some first, none => (state.fits first != edit.negated, state)
  | some first, some second =>
    if state.openRanges.contains index then
      let ends : Bool := match second with
        | .number line => line ≤ state.number
        | address => state.fits address
      let state := if ends then
          { state with openRanges := state.openRanges.filter (· ≠ index) }
        else state
      (!edit.negated, state)
    else if state.fits first then
      let isOne : Bool := match second with
        | .number line => line ≤ state.number
        | .last => state.later.isEmpty
        | .holding _ => false
      (!edit.negated,
        if isOne then state else { state with openRanges := index :: state.openRanges })
    else (edit.negated, state)

def print (state : EditState) (text : ByteText) : EditState :=
  { state with output := state.output.push (text ++ ['\n']) }

inductive After where
  | goesOn
  | deleted
  | quits (status : Nat)

def apply (quiet : Bool) (state : EditState) : EditAction → EditState × After
  | .substitute pattern image all place ignoresCase prints =>
    let (line, done) :=
      Edit.substituted pattern image state.line all ignoresCase (state.line.length + 2) place 0
    let state := { state with line }
    (if done && prints then state.print line else state, .goesOn)
  | .print => (state.print state.line, .goesOn)
  | .delete => (state, .deleted)
  | .quit status => (state, .quits status)
  | .showNumber => (state.print (decimal state.number), .goesOn)
  | .map members images =>
    let image (c : Char) : Char := ((members.zip images).lookup c).getD c
    ({ state with line := state.line.map image }, .goesOn)
  | .insert text => (state.print text, .goesOn)
  | .append text => ({ state with appended := state.appended ++ [text] }, .goesOn)
  | .change text => (state.print text, .deleted)
  | .next =>
    let state := if quiet then state else state.print state.line
    match state.later with
    | [] => (state, .deleted)
    | line :: later => ({ state with line, later, number := state.number + 1 }, .goesOn)
  | .keep adds =>
    ({ state with kept := if adds then state.kept ++ '\n' :: state.line else state.line }, .goesOn)
  | .recall adds =>
    ({ state with line := if adds then state.line ++ '\n' :: state.kept else state.kept }, .goesOn)
  | .exchange => ({ state with line := state.kept, kept := state.line }, .goesOn)
  | .nothing => (state, .goesOn)

def applyAll (quiet : Bool) (state : EditState) : List (Edit × Nat) → EditState × After
  | [] => (state, .goesOn)
  | (edit, index) :: rest =>
    let (isSelected, state) := state.selects index edit
    if isSelected then
      match state.apply quiet edit.action with
      | (state, .goesOn) => applyAll quiet state rest
      | ending => ending
    else applyAll quiet state rest

def run (quiet : Bool) (edits : List (Edit × Nat)) : Nat → EditState → EditState × Nat
  | 0, state => (state, 0)
  | count + 1, state =>
    match state.later with
    | [] => (state, 0)
    | line :: later =>
      let start := { state with line, later, number := state.number + 1, appended := [] }
      let (state, after) := start.applyAll quiet edits
      let isDeleted := match after with
        | .deleted => true
        | _ => false
      let state := if quiet || isDeleted then state else state.print state.line
      let state := state.appended.foldl print state
      match after with
      | .quits status => (state, status)
      | _ => run quiet edits count state

end EditState

def editStream (arguments : List ByteText) : Script Nat :=
  withOptions "sed" "nEre:f:su" [("quiet", 'n'), ("expression", 'e'), ("regexp-extended", 'E')] 1
      arguments fun given => do
    let scripts := (given.letters.filter fun entry => entry.1 = 'e').map Prod.snd
    let (scripts, operands) := match scripts, given.operands with
      | [], first :: rest => ([first], rest)
      | scripts, operands => (scripts, operands)
    if scripts.isEmpty then
      warn "sed" "no script specified"
      return 1
    else
      let script := ['\n'].intercalate scripts
      match Edit.parse? (given.has 'E' || given.has 'r') (script.length + 1) script with
      | none =>
        warn "sed" "-e expression #1: unknown command"
        return 1
      | some edits =>
        let (text, isAll) ← allText "sed" operands
        let lines := linesOf text
        let start : EditState := ⟨[], 0, lines, [], [], #[], []⟩
        let (state, status) := start.run (given.has 'n') edits.zipIdx (lines.length + 1)
        let output := state.output.toList.flatten
        let isCut := text.getLast? ≠ some '\n' && state.later.isEmpty && !lines.isEmpty
        say (if isCut then output.dropLast else output)
        printed "sed" (if status ≠ 0 then status else if isAll then 0 else 2)

/-! Expressions of words -/

inductive ExpressionFlaw where
  | missing (word : ByteText)
  | unexpected (word : ByteText)
  | notAnInteger
  | divisionByZero
  | unclosed

def ExpressionFlaw.message : ExpressionFlaw → String
  | .missing word => s!"syntax error: missing argument after '{word.toText}'"
  | .unexpected word => s!"syntax error: unexpected argument '{word.toText}'"
  | .notAnInteger => "non-integer argument"
  | .divisionByZero => "division by zero"
  | .unclosed => "syntax error: expecting ')'"

namespace Expression

def isNull (value : ByteText) : Bool :=
  value.isEmpty || (integer? value = some 0)

def truth (holds : Bool) : ByteText := if holds then ['1'] else ['0']

/-- The part of a text that a pattern matches at its start: its first group, or how long it is. -/
def matched (text pattern : ByteText) : ByteText :=
  match Regex.parse? false pattern with
  | none => ['0']
  | some regex =>
    let hasGroup := (Regex.alternatives false 1 (8 * (pattern.length + 8)) pattern).any
      fun found => 1 < found.2.1
    match regex.matchAt false text ⟨none, text, 0, []⟩ with
    | some found =>
      if hasGroup then
        match found.groups.lookup 1 with
        | some (start, stop) => (text.drop start).take (stop - start)
        | none => []
      else decimal (found.stop - found.start)
    | none => if hasGroup then [] else ['0']

def level? (word : ByteText) : Option Nat :=
  [[":"], ["*", "/", "%"], ["+", "-"], ["<", "<=", "=", "==", "!=", ">=", ">"], ["&"],
    ["|"]].findIdx? fun level => level.contains (String.ofList word)

def combine (operator : String) (a b : ByteText) : Except ExpressionFlaw ByteText :=
  let calculate (result : Int → Int → Except ExpressionFlaw Int) :=
    match integer? a, integer? b with
    | some a, some b => (result a b).map fun value => (toString value).toList
    | _, _ => .error .notAnInteger
  let divides (result : Int → Int → Int) (a b : Int) : Except ExpressionFlaw Int :=
    if b = 0 then .error .divisionByZero else .ok (result a b)
  let compare (holds : Ordering → Bool) : Except ExpressionFlaw ByteText :=
    .ok (truth (holds (match integer? a, integer? b with
      | some a, some b => Ord.compare a b
      | _, _ => Ord.compare a b)))
  match operator with
  | ":" => .ok (matched a b)
  | "*" => calculate fun a b => .ok (a * b)
  | "/" => calculate (divides Int.tdiv)
  | "%" => calculate (divides Int.tmod)
  | "+" => calculate fun a b => .ok (a + b)
  | "-" => calculate fun a b => .ok (a - b)
  | "<" => compare (· = .lt)
  | "<=" => compare (· ≠ .gt)
  | "=" | "==" => compare (· = .eq)
  | "!=" => compare (· ≠ .eq)
  | ">=" => compare (· ≠ .lt)
  | ">" => compare (· = .gt)
  | "&" => .ok (if isNull a || isNull b then ['0'] else a)
  | _ => .ok (if isNull a then (if isNull b then ['0'] else b) else a)

abbrev Found := Except ExpressionFlaw (ByteText × ByteText × List ByteText)

mutual

def binding (level : Nat) : Nat → ByteText → List ByteText → Found
  | 0, last, _ => .error (.missing last)
  | fuel + 1, last, words => do
    let (first, last, rest) ← match level with
      | 0 => operand fuel last words
      | tighter + 1 => binding tighter fuel last words
    following level first fuel last rest

def following (level : Nat) (left : ByteText) : Nat → ByteText → List ByteText → Found
  | 0, last, words => .ok (left, last, words)
  | fuel + 1, last, words =>
    match words with
    | word :: rest =>
      if level? word = some level then do
        let (right, last, rest) ← match level with
          | 0 => operand fuel word rest
          | tighter + 1 => binding tighter fuel word rest
        following level (← combine (String.ofList word) left right) fuel last rest
      else .ok (left, last, words)
    | [] => .ok (left, last, [])

def operand : Nat → ByteText → List ByteText → Found
  | 0, last, _ => .error (.missing last)
  | fuel + 1, last, words =>
    match words with
    | [] => .error (.missing last)
    | word :: rest =>
      match String.ofList word, rest with
      | "(", _ => do
        let (value, last, rest) ← binding 5 fuel word rest
        match rest with
        | [')'] :: rest => return (value, [')'], rest)
        | other :: _ => throw (.unexpected other)
        | [] =>
          let _ := last
          throw .unclosed
      | ")", _ => .error (.unexpected word)
      | "+", next :: rest => .ok (next, next, rest)
      | "length", _ :: _ => do
        let (value, last, rest) ← operand fuel word rest
        return (decimal value.length, last, rest)
      | "match", _ :: _ => do
        let (text, last, rest) ← operand fuel word rest
        let (pattern, last, rest) ← operand fuel last rest
        return (matched text pattern, last, rest)
      | "index", _ :: _ => do
        let (text, last, rest) ← operand fuel word rest
        let (members, last, rest) ← operand fuel last rest
        let place := match text.findIdx? fun c => members.contains c with
          | some index => index + 1
          | none => 0
        return (decimal place, last, rest)
      | "substr", _ :: _ => do
        let (text, last, rest) ← operand fuel word rest
        let (start, last, rest) ← operand fuel last rest
        let (length, last, rest) ← operand fuel last rest
        let part := match integer? start, integer? length with
          | some start, some length =>
            if start < 1 || length < 1 then [] else (text.drop (start.toNat - 1)).take length.toNat
          | _, _ => []
        return (part, last, rest)
      | _, _ => .ok (word, word, rest)

end

end Expression

def evaluateWords (arguments : List ByteText) : Script Nat := do
  let words := if arguments.head? = some ['-', '-'] then arguments.drop 1 else arguments
  if words.isEmpty then
    warn "expr" "missing operand"
    return 2
  else
    match Expression.binding 5 (20 * (words.length + 2)) [] words with
    | .error flaw =>
      warn "expr" flaw.message
      return 2
    | .ok (_, _, word :: _) =>
      warn "expr" (ExpressionFlaw.unexpected word).message
      return 2
    | .ok (value, _, []) =>
      say (value ++ ['\n'])
      printed "expr" (if Expression.isNull value then 1 else 0)

end DeviceRig.Shell.Tool
