import DeviceRig.Process.Shell.Condition
import DeviceRig.Process.Shell.Field
import DeviceRig.Process.Shell.Printing

/-!
Commands that the shell runs itself and that look at nothing but its own state: directories,
variables, arguments, options and texts. Each gives the status that it ends with.
-/
namespace DeviceRig.Shell.Builtin

open Script

/-! Arguments -/

/-- Reads the options that arguments start with, each with its value if the list of all has a
colon behind it, and gives the other arguments. -/
def options (command : String) (known : List Char) :
    Nat → List ByteText → Script (List (Char × ByteText) × List ByteText)
  | 0, arguments => return ([], arguments)
  | count + 1, arguments => do
    match arguments with
    | ['-', '-'] :: rest => return ([], rest)
    | ('-' :: c :: letters) :: rest =>
      match known.dropWhile (· ≠ c) with
      | _ :: ':' :: _ =>
        match letters, rest with
        | [], [] => fail s!"{command}: No arg for -{c} option"
        | [], value :: rest =>
          let (more, left) ← options command known count rest
          return ((c, value) :: more, left)
        | value, rest =>
          let (more, left) ← options command known count rest
          return ((c, value) :: more, left)
      | _ :: _ =>
        let rest := if letters.isEmpty then rest else ('-' :: letters) :: rest
        let (more, left) ← options command known count rest
        return ((c, []) :: more, left)
      | [] => fail s!"{command}: Illegal option -{c}"
    | _ => return ([], arguments)

def readOptions (command known : String) (arguments : List ByteText) :
    Script (List (Char × ByteText) × List ByteText) :=
  options command known.toList (arguments.flatten.length + arguments.length + 1) arguments

def maxNumber : Int := 2147483647

def numberOf (command : String) (argument : ByteText) : Script Nat := do
  match Condition.number argument with
  | .ok value =>
    if 0 ≤ value && value ≤ maxNumber then return value.toNat
    else fail s!"{command}: Illegal number: {argument.toText}"
  | .error _ => fail s!"{command}: Illegal number: {argument.toText}"

def quoted (text : ByteText) : ByteText :=
  let rec go : ByteText → ByteText
    | [] => ['\'']
    | c :: rest =>
      if c = '\'' then "'\"'\"'".toList ++ go rest else c :: go rest
  '\'' :: go text

/-! Directories -/

def withoutDots (path : String) : String :=
  let parts := (FileTree.names path).foldl (fun (kept : List String) part =>
    if part = "." then kept else if part = ".." then kept.dropLast else kept ++ [part]) []
  "/" ++ "/".intercalate parts

/-- The first of the directories in a variable that has a directory of a name in it. -/
def firstDirectory (target : ByteText) : Script (Option ByteText) := do
  let first := target.takeWhile (· ≠ '/')
  if target.head? = some '/' || first = ['.'] || first = ['.', '.'] then return none
  for start in ((← valueOf? "CDPATH").getD []).toText.splitOn ":" do
    let path := if start.isEmpty then target else ByteText.ofString (start ++ "/") ++ target
    if (← get).files.isDirectory (← pathOf path) then
      return if start.isEmpty then none else some path
  return none

def changeDirectory (arguments : List ByteText) : Script Nat := do
  let (letters, rest) ← readOptions "cd" "LP" arguments
  let isPhysical := (letters.getLast?.map Prod.fst) = some 'P'
  let target ← match rest.head? with
    | none => pure ((← valueOf? "HOME").getD [])
    | some ['-'] => pure ((← valueOf? "OLDPWD").getD [])
    | some target => pure target
  let before := (← process).directory
  let found? ← firstDirectory target
  if !target.isEmpty then
    let path ← pathOf (found?.getD target)
    let files := (← get).files
    let path := if isPhysical then path else withoutDots path
    match files.entryAt true path with
    | .ok (location, ⟨.directory, _, _⟩) =>
      let directory := if isPhysical then "/" ++ "/".intercalate location else withoutDots path
      modifyProcess fun process => { process with directory }
      assign "OLDPWD" (ByteText.ofString before)
      assign "PWD" (ByteText.ofString directory)
      for name in ["OLDPWD", "PWD"] do
        putVariable name ((← lookUp? name).map fun found => { found with exported := true })
    | _ => fail s!"cd: can't cd to {target.toText}"
  if rest.head? = some ['-'] || found?.isSome then sayLine (← process).directory
  return 0

def printDirectory (arguments : List ByteText) : Script Nat := do
  let (letters, _) ← readOptions "pwd" "LP" arguments
  let directory := (← process).directory
  if (letters.getLast?.map Prod.fst) = some 'P' then
    match (← get).files.locate true directory with
    | .ok location => sayLine ("/" ++ "/".intercalate location)
    | .error _ => sayLine directory
  else sayLine directory
  return 0

/-! Variables -/

def nameAndValue (argument : ByteText) : ByteText × Option ByteText :=
  let name := argument.takeWhile (· ≠ '=')
  match argument.drop name.length with
  | [] => (name, none)
  | _ :: value => (name, some value)

def sortedVariables : Script (List (String × Variable)) := do
  return (← process).bindings.mergeSort fun a b => decide (a.1 ≤ b.1)

def listVariables (start : String) (wanted : Variable → Bool) : Script Nat := do
  for (name, found) in ← sortedVariables do
    if wanted found then
      let value := match found.value with
        | some value => '=' :: quoted value
        | none => []
      say ((start ++ name).toList ++ value ++ ['\n'])
  return 0

def markVariables (command : String) (mark : Variable → Variable) (wanted : Variable → Bool)
    (arguments : List ByteText) : Script Nat := do
  let (letters, rest) ← readOptions command "p" arguments
  if rest.isEmpty || !letters.isEmpty then listVariables (command ++ " ") wanted
  else
    for argument in rest do
      let (name, value) := nameAndValue argument
      if !isName name then fail s!"{command}: {name.toText}: bad variable name"
      let name := String.ofList name
      if let some value := value then assign name value
      putVariable name (some (mark ((← lookUp? name).getD ⟨none, false, false⟩)))
    return 0

def exportVariables (arguments : List ByteText) : Script Nat :=
  markVariables "export" (fun found => { found with exported := true }) Variable.exported arguments

def protectVariables (arguments : List ByteText) : Script Nat :=
  markVariables "readonly" (fun found => { found with readOnly := true }) Variable.readOnly
    arguments

/-- The name under which the options are kept that a call of a function made local. -/
def optionsName : String := "-"

def makeLocal (arguments : List ByteText) : Script Nat := do
  if (← process).locals.isEmpty then fail "local: not in a function"
  for argument in arguments do
    let (name, value) := nameAndValue argument
    if argument = ['-'] then
      let letters := (← process).options
      modifyProcess fun process =>
        { process with locals := match process.locals with
            | scope :: outer => ((optionsName, some ⟨some letters, false, false⟩) :: scope) :: outer
            | [] => [] }
    else
      if !isName name then fail s!"local: {name.toText}: bad variable name"
      let name := String.ofList name
      let old ← lookUp? name
      modifyProcess fun process =>
        { process with locals := match process.locals with
            | scope :: outer => ((name, old) :: scope) :: outer
            | [] => [] }
      if let some value := value then assign name value
  return 0

def restoreLocals : Script Unit := do
  match (← process).locals with
  | [] => pure ()
  | scope :: outer =>
    for (name, old) in scope do
      if name = optionsName then
        modifyProcess fun process =>
          { process with options := (old.bind Variable.value).getD [] }
      else putVariable name old
    modifyProcess fun process => { process with locals := outer }

def unset (arguments : List ByteText) : Script Nat := do
  let (letters, rest) ← readOptions "unset" "vf" arguments
  let kind := letters.getLast?.map Prod.fst
  for name in rest do
    let text := String.ofList name
    let found ← lookUp? text
    if kind ≠ some 'f' then
      if !isName name then fail s!"unset: {name.toText}: bad variable name"
      if found.any Variable.readOnly then fail s!"unset: {text}: is read only"
      putVariable text none
    if kind = some 'f' || (kind = none && found.isNone) then
      modifyProcess fun process =>
        { process with functions := process.functions.filter fun entry => entry.1 ≠ text }
  return 0

/-! Arguments and options of the shell -/

def shift (arguments : List ByteText) : Script Nat := do
  let count ← match arguments.head? with
    | some argument => numberOf "shift" argument
    | none => pure 1
  let all := (← process).arguments
  if all.length < count then fail "shift: can't shift that many"
  modifyProcess fun process => { process with arguments := all.drop count, optionPlace := (1, 0) }
  return 0

def setOption (letter : Char) (on : Bool) : Script Unit :=
  modifyProcess fun process =>
    let others := process.options.filter (· ≠ letter)
    { process with options := if on then others ++ [letter] else others }

def listOptions (readable : Bool) : Script Unit := do
  let now := (← process).options
  if !readable then sayLine "Current option settings"
  for (letter, name) in shellOptions do
    let on := now.contains letter
    let sign := if on then "-" else "+"
    let blanks := String.ofList (List.replicate (16 - name.length) ' ')
    if readable then sayLine s!"set {sign}o {name}"
    else sayLine (name ++ blanks ++ if on then "on" else "off")

/-- Sets the options that arguments start with. The other arguments are given back, and whether
they replace those of the shell; with `single` a `c` asks for a script. -/
def setOptions (single : Bool) :
    Nat → List ByteText → Script (List ByteText × Bool × Bool)
  | 0, arguments => return (arguments, false, false)
  | count + 1, arguments => do
    match arguments with
    | ['-'] :: rest =>
      setOption 'x' false
      setOption 'v' false
      return (rest, !rest.isEmpty, false)
    | ['-', '-'] :: rest => return (rest, true, false)
    | (sign :: letter :: letters) :: rest =>
      if sign ≠ '-' && sign ≠ '+' then return (arguments, true, false)
      let on := sign = '-'
      let behind := if letters.isEmpty then rest else (sign :: letters) :: rest
      if letter = 'o' then
        match rest with
        | [] =>
          listOptions (!on)
          setOptions single count (if letters.isEmpty then [] else behind)
        | name :: rest =>
          match shellOptions.find? fun entry => entry.2 = String.ofList name with
          | some (letter, _) =>
            setOption letter on
            setOptions single count (if letters.isEmpty then rest else (sign :: letters) :: rest)
          | none => fail s!"Illegal option {sign}o {name.toText}"
      else if single && letter = 'c' then
        let (left, replaced, _) ← setOptions single count behind
        return (left, replaced, true)
      else if shellOptions.any fun entry => entry.1 = letter then
        setOption letter on
        setOptions single count behind
      else fail s!"Illegal option {sign}{letter}"
    | [] => return ([], false, false)
    | _ => return (arguments, true, false)

def setArguments (arguments : List ByteText) : Script Nat := do
  if arguments.isEmpty then
    for (name, found) in ← sortedVariables do
      if let some value := found.value then
        say (name.toList ++ '=' :: quoted value ++ ['\n'])
    return 0
  else
    let (rest, replaces, _) ← setOptions false (arguments.flatten.length + arguments.length + 1)
      arguments
    if replaces then
      modifyProcess fun process => { process with arguments := rest, optionPlace := (1, 0) }
    return 0

/-- Where the reading of options goes on, and what it has found: the letter, and its value. -/
structure OptionFound where
  letter : Char
  value : Option ByteText
  place : Nat × Nat
  isDone : Bool
  complaint : Option String

def nextOption (known : ByteText) (arguments : List ByteText) (place : Nat × Nat) : OptionFound :=
  let (index, offset) := place
  let isSilent := known.head? = some ':'
  let known := if isSilent then known.drop 1 else known
  let inside := if 1 < index && 0 < offset then (arguments[index - 2]?.getD []).drop offset else []
  let started : Option (ByteText × Nat) :=
    if !inside.isEmpty then some (inside, index)
    else match arguments[index - 1]? with
      | some ('-' :: c :: rest) => some (c :: rest, index + 1)
      | _ => none
  match started with
  | none => ⟨'?', none, (index, 0), true, none⟩
  | some (['-'], next) =>
    if inside.isEmpty then ⟨'?', none, (next, 0), true, none⟩
    else ⟨'?', some [], (next, 0), false, some "Illegal option --"⟩
  | some (text, next) =>
    let letter := text.headD '?'
    let rest := text.drop 1
    let argument := arguments[next - 2]?.getD []
    let after := if rest.isEmpty then 0 else argument.length - rest.length
    match known.dropWhile (· ≠ letter) with
    | [] =>
      if isSilent then ⟨'?', some [letter], (next, after), false, none⟩
      else ⟨'?', none, (next, after), false, some s!"Illegal option -{letter}"⟩
    | _ :: ':' :: _ =>
      if !rest.isEmpty then ⟨letter, some rest, (next, 0), false, none⟩
      else
        match arguments[next - 1]? with
        | some value => ⟨letter, some value, (next + 1, 0), false, none⟩
        | none =>
          if isSilent then ⟨':', some [letter], (next, 0), false, none⟩
          else ⟨'?', none, (next, 0), false, some s!"No arg for -{letter} option"⟩
    | _ => ⟨letter, some [], (next, after), false, none⟩

def getOptions (arguments : List ByteText) : Script Nat := do
  match arguments with
  | known :: name :: rest =>
    let process ← process
    let all := if rest.isEmpty then process.arguments else rest
    let found := nextOption known all process.optionPlace
    if let some complaint := found.complaint then
      let _ ← write 2 (ByteText.ofString (complaint ++ "\n"))
    if !found.isDone then
      match found.value with
      | some value => assign "OPTARG" value
      | none => putVariable "OPTARG" none
    assign optionVariable (toString found.place.1).toList
    if !isName name then fail s!"getopts: {name.toText}: bad variable name"
    assign (String.ofList name) [found.letter]
    modifyProcess fun process => { process with optionPlace := found.place }
    return if found.isDone then 1 else 0
  | _ => fail "getopts: Usage: getopts optstring var [arg...]"

/-! Texts -/

def echo (arguments : List ByteText) : Script Nat := do
  say (echoText arguments)
  return 0

def printFormat (arguments : List ByteText) : Script Nat := do
  let (_, rest) ← readOptions "printf" "" arguments
  match rest with
  | [] => fail "printf: usage: printf format [arg ...]"
  | format :: rest =>
    let result := formatted format rest
    for complaint in result.complaints ++ result.flaw.toList do
      complain s!"printf: {complaint}"
    say result.text.toList
    if result.flaw.isSome then
      setStatus errorStatus
      throw .failed
    return if result.complaints.isEmpty then 0 else 1

def test (name : ByteText) (arguments : List ByteText) : Script Nat := do
  let machine ← get
  let directory := machine.process.directory
  let place (path : ByteText) : String :=
    let text := path.toText
    if text.isEmpty || FileTree.isAbsolute text then text else directory ++ "/" ++ text
  match Condition.holdsAs ⟨machine.files, place⟩ name arguments with
  | .ok holds => return if holds then 0 else 1
  | .error flaw => fail s!"{name.toText}: {flaw.message}"

/-- The characters of a line with escapes, each with whether it was escaped. A line feed that is
escaped goes away; false if the line ends with a lone escape. -/
def lineChars (isRaw : Bool) : ByteText → List PatternChar × Bool
  | [] => ([], true)
  | '\\' :: rest =>
    if isRaw then
      let (others, isWhole) := lineChars isRaw rest
      (('\\', false) :: others, isWhole)
    else
      match rest with
      | [] => ([], false)
      | c :: rest =>
        let (others, isWhole) := lineChars isRaw rest
        ((c, true) :: others, isWhole)
  | c :: rest =>
    let (others, isWhole) := lineChars isRaw rest
    if c = '\x00' then (others, isWhole) else ((c, false) :: others, isWhole)

/-- Reads a line and those that it goes on in, and tells whether the last was ended. -/
def logicalLine (isRaw : Bool) : Nat → Script (List PatternChar × Bool)
  | 0 => return ([], false)
  | count + 1 => do
    match ← takeLine 0 with
    | .error _ => return ([], false)
    | .ok (line, ended) =>
      let (chars, isWhole) := lineChars isRaw line
      if isWhole || !ended then return (chars, ended)
      else
        let (more, ended) ← logicalLine isRaw count
        return (chars ++ more, ended)

/-- How far the words of a line have been taken: the words, the one that is put together, both in
reverse, how many may still follow, whether a blank has just ended one, and from where on the last
word may be cut off. -/
structure LineWords where
  complete : List ByteText
  current : ByteText
  left : Nat
  afterBlank : Bool
  cut : Option Nat

namespace LineWords

def add (separators : ByteText) (state : LineWords) (char : PatternChar) : LineWords :=
  let (c, escaped) := char
  let separates := !escaped && separators.contains c
  let isBlank := separates && (c = ' ' || c = '\t' || c = '\n')
  if state.left = 0 then
    if isBlank then
      { state with
        current := c :: state.current
        cut := some (state.cut.getD state.current.length) }
    else
      { state with
        current := c :: state.current
        cut := if separates && state.afterBlank then state.cut else none
        afterBlank := false }
  else if state.afterBlank && isBlank then state
  else if state.afterBlank && separates then { state with afterBlank := false }
  else if separates then
    if isBlank && state.current.isEmpty then state
    else if state.left = 1 then
      { state with
        current := c :: state.current, left := 0, cut := some state.current.length,
        afterBlank := isBlank }
    else
      { state with
        complete := state.current.reverse :: state.complete, current := [],
        left := state.left - 1, afterBlank := isBlank }
  else { state with current := c :: state.current, afterBlank := false }

def ofLine (separators : ByteText) (count : Nat) (line : List PatternChar) : List ByteText :=
  let state := line.foldl (add separators) ⟨[], [], count, false, none⟩
  let last := state.current.reverse
  let last := match state.cut with
    | some length => last.take length
    | none => last
  (if last.isEmpty then state.complete else last :: state.complete).reverse

end LineWords

def maxLines : Nat := 100000

def read (separators : ByteText) (arguments : List ByteText) : Script Nat := do
  let (letters, names) ← readOptions "read" "p:r" arguments
  if names.isEmpty then fail "read: arg count"
  let (line, ended) ← logicalLine (letters.any fun entry => entry.1 = 'r') maxLines
  let words := LineWords.ofLine separators names.length line
  for (name, index) in names.zipIdx do
    if !isName name then fail s!"read: {name.toText}: bad variable name"
    assign (String.ofList name) (words[index]?.getD [])
  return if ended then 0 else 1

/-! Permissions and limits -/

def permissionBits (classes letters : List Char) : Nat :=
  let bit (c : Char) : Nat := match c with
    | 'r' => 4
    | 'w' => 2
    | 'x' | 'X' => 1
    | _ => 0
  let bits := letters.foldl (fun bits c => bits ||| bit c) 0
  let isIn (c : Char) := classes.isEmpty || classes.contains c || classes.contains 'a'
  (if isIn 'u' then bits * 64 else 0) + (if isIn 'g' then bits * 8 else 0) +
    (if isIn 'o' then bits else 0)

/-- Permissions after the changes that a text of letters asks for; none if it is no such text. -/
def changedMode (mode : Nat) : Nat → ByteText → Option Nat
  | 0, _ => none
  | count + 1, text =>
    let classes := text.takeWhile fun c => "ugoa".toList.contains c
    match text.drop classes.length with
    | sign :: rest =>
      let letters := rest.takeWhile fun c => "rwxXst".toList.contains c
      let bits := permissionBits classes letters
      let after := rest.drop letters.length
      let changed? : Option Nat := match sign with
        | '+' => some (mode ||| bits)
        | '-' => some (mode &&& (0o7777 ^^^ bits))
        | '=' => some (mode &&& (0o7777 ^^^ permissionBits classes ['r', 'w', 'x']) ||| bits)
        | _ => none
      match changed?, after with
      | none, _ => none
      | some changed, [] => some changed
      | some changed, ',' :: more => changedMode changed count more
      | some changed, next =>
        if ['+', '-', '='].contains (next.headD ' ') then
          changedMode changed count (classes ++ next)
        else none
    | [] => none

def octalText (width number : Nat) : String :=
  let digits := Nat.toDigits 8 number
  String.ofList (List.replicate (width - digits.length) '0' ++ digits)

def umask (arguments : List ByteText) : Script Nat := do
  let (letters, rest) ← readOptions "umask" "S" arguments
  let mask := (← process).mask
  match rest with
  | [] =>
    if letters.isEmpty then sayLine (octalText 4 mask)
    else
      let shown (shift : Nat) : String :=
        let bits := (0o777 - mask) / shift % 8
        (if bits / 4 % 2 = 1 then "r" else "") ++ (if bits / 2 % 2 = 1 then "w" else "") ++
          (if bits % 2 = 1 then "x" else "")
      sayLine s!"u={shown 64},g={shown 8},o={shown 1}"
    return 0
  | text :: _ =>
    if text.head?.any isDigit then
      if text.all fun c => '0' ≤ c && c ≤ '7' then
        let mask := (Calculation.digitsIn 8 text).1 % 512
        modifyProcess fun process => { process with mask }
        return 0
      else fail s!"umask: Illegal number: {text.toText}"
    else
      match changedMode (0o777 - mask) (text.length + 1) text with
      | some mode =>
        modifyProcess fun process => { process with mask := 0o777 - mode % 512 }
        return 0
      | none => fail s!"umask: Illegal mode: {text.toText}"

def ulimit (arguments : List ByteText) : Script Nat := do
  let (letters, rest) ← readOptions "ulimit" "HSatfdscmlpnvwr" arguments
  match rest with
  | [] =>
    sayLine (if letters.any fun entry => entry.1 = 'c' then "0" else "unlimited")
    return 0
  | text :: _ =>
    if text = "unlimited".toList || (!text.isEmpty && text.all isDigit) then return 0
    else fail "ulimit: bad number"

def times : Script Nat := do
  sayLine "0m0.000000s 0m0.000000s"
  sayLine "0m0.000000s 0m0.000000s"
  return 0

end DeviceRig.Shell.Builtin
