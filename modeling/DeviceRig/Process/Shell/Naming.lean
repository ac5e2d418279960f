import DeviceRig.Process.Shell.Program

/-!
What names call: the commands of the shell itself by their names, of which some are special, since
their errors end the shell and what is assigned before them stays; functions; and programs. Also the
commands that say what a name calls.
-/
namespace DeviceRig.Shell

structure BuiltinCommand where
  isSpecial : Bool
  run : Runner → Manner → List ByteText → Script Nat

namespace Builtin

open Script

/-! Commands that change what comes next -/

def leave (command : String) (again : Bool) (arguments : List ByteText) : Script Nat := do
  let levels ← match arguments.head? with
    | some argument => numberOf command argument
    | none => pure 1
  if levels = 0 then fail s!"{command}: Illegal number: 0"
  let loops := (← process).loops
  setStatus 0
  if loops = 0 then return 0 else throw (.leaving (min levels loops) again)

def returnFrom (arguments : List ByteText) : Script Nat := do
  if let some argument := arguments.head? then
    setStatus (← numberOf "return" argument)
  throw .returning

def exit (arguments : List ByteText) : Script Nat := do
  match arguments.head? with
  | some argument => setStatus (← numberOf "exit" argument)
  | none =>
    let process ← process
    setStatus (process.interrupted.getD process.status)
  throw .exiting

def evaluateText (runner : Runner) (manner : Manner) (arguments : List ByteText) : Script Nat := do
  runner.text manner.followed ([' '].intercalate arguments)
  status

def scriptPath (name : ByteText) : Script (Option ByteText) := do
  if name.contains '/' then return some name
  else
    let files := (← get).files
    for directory in ← searchPath do
      let path := ByteText.ofString (directory ++ "/") ++ name
      match files.entryAt true (← pathOf path) with
      | .ok (_, ⟨.regular _, _, _⟩) => return some path
      | _ => pure ()
    return none

def runFile (runner : Runner) (arguments : List ByteText) : Script Nat := do
  let (_, rest) ← readOptions "." "" arguments
  match rest with
  | [] => return 0
  | name :: _ =>
    match ← scriptPath name with
    | none => fail s!".: {name.toText}: not found"
    | some path =>
      match (← get).files.readFile (← pathOf path) with
      | .error fault => fail (".: " ++ openMessage .read path fault)
      | .ok content =>
        try runner.text .plain (ByteText.ofBytes content) catch
          | .returning => pure ()
          | stop => throw stop
        status

def execute (runner : Runner) (arguments : List ByteText) : Script Nat := do
  let (_, rest) ← readOptions "exec" "" arguments
  if rest.isEmpty then return 0
  match ← findExecutable (rest.headD []) with
  | .error fault =>
    complain s!"exec: {(rest.headD []).toText}: {refusalReason fault}"
    setStatus (refusalStatus fault)
    throw .exiting
  | .ok _ =>
    modifyProcess fun process =>
      { process with traps := process.traps.filter fun entry => entry.2.isEmpty }
    runner.program rest
    status

/-! Aliases and remembered places -/

def setAliases (arguments : List ByteText) : Script Nat := do
  let shown (entry : String × ByteText) : ByteText :=
    entry.1.toList ++ '=' :: quoted entry.2 ++ ['\n']
  if arguments.isEmpty then
    for entry in (← process).aliases.mergeSort fun a b => decide (a.1 ≤ b.1) do
      say (shown entry)
    return 0
  else
    let mut result := 0
    for argument in arguments do
      let (name, value) := nameAndValue argument
      let text := String.ofList name
      match value, (← process).aliases.lookup text with
      | some value, _ =>
        modifyProcess fun process =>
          { process with
            aliases := (text, value) :: process.aliases.filter fun entry => entry.1 ≠ text }
      | none, some value => say (shown (text, value))
      | none, none =>
        let _ ← write 2 (ByteText.ofString s!"alias: {name.toText} not found\n")
        result := 1
    return result

def dropAliases (arguments : List ByteText) : Script Nat := do
  let (letters, rest) ← readOptions "unalias" "a" arguments
  if !letters.isEmpty then
    modifyProcess fun process => { process with aliases := [] }
    return 0
  else
    let mut result := 0
    for name in rest do
      let text := String.ofList name
      if (← process).aliases.any fun entry => entry.1 = text then
        modifyProcess fun process =>
          { process with aliases := process.aliases.filter fun entry => entry.1 ≠ text }
      else
        let _ ← write 2 (ByteText.ofString s!"unalias: {name.toText} not found\n")
        result := 1
    return result

/-- The commands of the shell; those that say what a name calls are looked up in the table of all
others. -/
def basicCommands : List (String × BuiltinCommand) :=
  let plain (run : List ByteText → Script Nat) : BuiltinCommand :=
    ⟨false, fun _ _ arguments => run arguments⟩
  let special (run : List ByteText → Script Nat) : BuiltinCommand :=
    ⟨true, fun _ _ arguments => run arguments⟩
  [(".", ⟨true, fun runner _ arguments => runFile runner arguments⟩),
    (":", special fun _ => return 0),
    ("[", plain (test ['['])),
    ("alias", plain setAliases),
    ("bg", plain (Jobs.resume "bg")),
    ("break", special (leave "break" false)),
    ("cd", plain changeDirectory),
    ("chdir", plain changeDirectory),
    ("continue", special (leave "continue" true)),
    ("echo", plain echo),
    ("eval", ⟨true, evaluateText⟩),
    ("exec", ⟨true, fun runner _ arguments => execute runner arguments⟩),
    ("exit", special exit),
    ("export", special exportVariables),
    ("false", plain fun _ => return 1),
    ("getopts", plain getOptions),
    ("fg", plain (Jobs.resume "fg")),
    ("jobs", ⟨false, fun runner _ arguments => Jobs.list runner arguments⟩),
    ("kill", ⟨false, fun runner _ arguments => Jobs.kill runner arguments⟩),
    ("local", special makeLocal),
    ("printf", plain printFormat),
    ("pwd", plain printDirectory),
    ("read", plain fun arguments => do read (← separators) arguments),
    ("readonly", special protectVariables),
    ("return", special returnFrom),
    ("set", special setArguments),
    ("shift", special shift),
    ("test", plain (test "test".toList)),
    ("times", special fun _ => times),
    ("trap", special Jobs.trap),
    ("true", plain fun _ => return 0),
    ("ulimit", plain ulimit),
    ("umask", plain umask),
    ("unalias", plain dropAliases),
    ("unset", special unset),
    ("wait", ⟨false, fun runner _ arguments => Jobs.wait runner arguments⟩)]

def namingCommands : List String := ["command", "hash", "type"]

inductive Meaning where
  | keyword
  | alias (value : ByteText)
  | special
  | function
  | builtin
  | program (path : String)
  | nothing
deriving DecidableEq, Repr

def meaningOf (name : ByteText) : Script Meaning := do
  let text := String.ofList name
  let process ← process
  if reservedWords.contains text then return .keyword
  if let some value := process.aliases.lookup text then return .alias value
  if specialBuiltins.contains text then return .special
  if process.functions.any fun entry => entry.1 = text then return .function
  if namingCommands.contains text || basicCommands.any fun entry => entry.1 = text then
    return .builtin
  match ← findExecutable name with
  | .ok found => return .program (if name.contains '/' then name.toText else found.path)
  | .error _ => return .nothing

def describeMeaning (name : String) : Meaning → String
  | .keyword => s!"{name} is a shell keyword"
  | .alias value => s!"{name} is an alias for {value.toText}"
  | .special => s!"{name} is a special shell builtin"
  | .function => s!"{name} is a shell function"
  | .builtin => s!"{name} is a shell builtin"
  | .program path => s!"{name} is {path}"
  | .nothing => s!"{name}: not found"

def unknownStatus : Nat := 127

def describe (inWords : Bool) (names : List ByteText) : Script Nat := do
  let mut result := 0
  for name in names do
    let text := name.toText
    let meaning ← meaningOf name
    match meaning with
    | .nothing =>
      if inWords then sayLine (describeMeaning text meaning)
      result := unknownStatus
    | .alias value =>
      if inWords then sayLine (describeMeaning text meaning)
      else say ("alias ".toList ++ name ++ '=' :: quoted value ++ ['\n'])
    | .program path => sayLine (if inWords then describeMeaning text meaning else path)
    | _ => sayLine (if inWords then describeMeaning text meaning else text)
  return result

def hash (arguments : List ByteText) : Script Nat := do
  let (_, names) ← readOptions "hash" "rv" arguments
  let mut result := 0
  for name in names do
    if (← meaningOf name) = .nothing then
      complain s!"hash: {name.toText}: not found"
      result := 1
  return result

end Builtin

end DeviceRig.Shell
