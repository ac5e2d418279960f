import DeviceRig.Process.Shell.Naming

/-!
Running commands of every kind. A simple command expands its words, then redirects, then assigns,
and calls what its first field names. The runner takes a command apart level by level; a script
that nests deeper than there are levels ends like one whose stack is full.
-/
namespace DeviceRig.Shell.Script

/-! Simple commands -/

/-- The commands whose arguments are expanded like what is assigned, if they assign. -/
def markingCommands : List String := ["export", "local", "readonly"]

def markedFields (runner : Runner) (words : List Word) : Script (List ByteText) := do
  let fields ← words.mapM fun word => do
    match assignment? word with
    | some (name, value) => return [name.toList ++ '=' :: (← expandAssigned runner value)]
    | none => expandFields runner word
  return fields.flatten

def commandFields (runner : Runner) : List Word → Script (List ByteText)
  | [] => return []
  | word :: rest => do
    match ← expandFields runner word with
    | [] => commandFields runner rest
    | first :: others =>
      let name := String.ofList first
      let isCommand := others.isEmpty && name = "command"
      if others.isEmpty && markingCommands.contains name then
        return first :: (← markedFields runner rest)
      else if isCommand then return first :: (← commandFields runner rest)
      else return first :: others ++ (← expandAll runner rest)

def trace (assignments : List (String × ByteText)) (fields : List ByteText) : Script Unit := do
  if ← hasOption 'x' then
    let assigned := assignments.map fun (name, value) => name.toList ++ '=' :: value
    let text := [' '].intercalate (['+'] :: assigned ++ fields)
    let _ ← write 2 (text ++ ['\n'])

def assignAll (runner : Runner) (exported : Bool) :
    List (String × Word) → Script (List (String × ByteText))
  | [] => return []
  | (name, word) :: rest => do
    let value ← expandAssigned runner word
    assign name value
    if exported then
      putVariable name ((← lookUp? name).map fun found => { found with exported := true })
    return (name, value) :: (← assignAll runner exported rest)

def underAssignments (runner : Runner) (assignments : List (String × Word))
    (body : List (String × ByteText) → Script Unit) : Script Unit := do
  let before := (← process).bindings
  let names := assignments.map Prod.fst
  let giveBack (_ process : Process) : Process :=
    let others := process.bindings.filter fun entry => !names.contains entry.1
    { process with bindings := (before.filter fun entry => names.contains entry.1) ++ others }
  if assignments.isEmpty then body []
  else
    restoring giveBack do
      body (← assignAll runner true assignments)

def runBuiltin (name : ByteText) (action : Script Nat) : Script Unit := do
  modify fun machine => { machine with printFailed := false }
  let result ← action
  if (← get).printFailed then
    complain s!"{name.toText}: I/O error"
    setStatus (result ||| 1)
  else setStatus result

def forgiving (body : Script Unit) : Script Unit := do
  try body catch
    | .failed => pure ()
    | stop => throw stop

def runProgram (runner : Runner) (manner : Manner) (fields : List ByteText) : Script Unit := do
  if manner.final && !(← hasTraps) then runner.program fields
  else inChild (runner.program fields)

def builtinOf? (commands : List (String × BuiltinCommand)) (name : String) :
    Option BuiltinCommand :=
  commands.lookup name

/-- Calls what a name means. Functions are passed over if `passes`, and then no command is
special. -/
def call (commands : List (String × BuiltinCommand)) (runner : Runner) (manner : Manner)
    (passes : Bool) (fields : List ByteText) : Script Unit := do
  let name := fields.headD []
  let text := String.ofList name
  let arguments := fields.drop 1
  let function? := (← process).functions.lookup text
  match builtinOf? commands text, function? with
  | some builtin, none =>
    let body := runBuiltin name (builtin.run runner manner arguments)
    if builtin.isSpecial && !passes then body else forgiving body
  | some builtin, some function =>
    if passes then forgiving (runBuiltin name (builtin.run runner manner arguments))
    else callFunction runner manner function arguments
  | none, some function =>
    if passes then runNamed name else callFunction runner manner function arguments
  | none, none => runNamed name
where
  runNamed (name : ByteText) : Script Unit := do
    let found ← if name.contains '/' then pure none else some <$> findExecutable name
    match found with
    | some (.error fault) =>
      complain s!"{name.toText}: {refusalReason fault}"
      setStatus (refusalStatus fault)
    | _ => runProgram runner manner fields

def keepsAssignments (commands : List (String × BuiltinCommand)) (fields : List ByteText) : Bool :=
  (builtinOf? commands (String.ofList (fields.headD []))).any BuiltinCommand.isSpecial

def runAssignments (runner : Runner) (assignments : List (String × Word))
    (redirects : List Redirect) : Script Unit := do
  withDescriptors do
    if ← redirectAll runner redirects then
      let made ← assignAll runner false assignments
      trace made []
      setStatus ((← process).substituted.getD 0)
    else setStatus errorStatus

def runSimple (commands : List (String × BuiltinCommand)) (runner : Runner) (manner : Manner)
    (assignments : List (String × Word)) (words : List Word) (redirects : List Redirect) :
    Script Unit := do
  step
  catchUp runner
  runCaught runner
  modifyProcess fun process => { process with substituted := none }
  match ← commandFields runner words with
  | [] => runAssignments runner assignments redirects
  | fields =>
    let name := String.ofList (fields.headD [])
    let isSpecial := keepsAssignments commands fields
    let replaces := name = "exec"
    let run : Script Unit := do
      if !(← redirectAll runner redirects) then
        setStatus errorStatus
        if isSpecial then throw .failed
      else if isSpecial then
        let exported := replaces && 1 < fields.length
        let made ← assignAll runner exported assignments
        trace made fields
        call commands runner manner false fields
      else
        underAssignments runner assignments fun made => do
          trace made fields
          call commands runner manner false fields
    if replaces then run else withDescriptors run

/-! The commands that say or change what a name calls -/

def commandCommand (commands : List (String × BuiltinCommand)) (runner : Runner) (manner : Manner)
    (arguments : List ByteText) : Script Nat := do
  let (letters, rest) ← Builtin.readOptions "command" "pvV" arguments
  if letters.any fun entry => entry.1 = 'V' then Builtin.describe true (rest.take 1)
  else if letters.any fun entry => entry.1 = 'v' then Builtin.describe false (rest.take 1)
  else if rest.isEmpty then return 0
  else
    inScope (call commands runner manner.followed true rest)
    status

/-- All commands of the shell. Those that call others do so over the levels that are left. -/
def allCommands : Nat → List (String × BuiltinCommand)
  | 0 => Builtin.basicCommands
  | levels + 1 =>
    [("command", ⟨false, commandCommand (allCommands levels)⟩),
      ("hash", ⟨false, fun _ _ arguments => Builtin.hash arguments⟩),
      ("type", ⟨false, fun _ _ arguments => Builtin.describe true arguments⟩)] ++
      Builtin.basicCommands

def callLevels : Nat := 5

/-! All commands -/

def fits (runner : Runner) (subject : ByteText) : List Word → Script Bool
  | [] => return false
  | pattern :: rest => do
    if (← expandPattern runner pattern).matchesAll subject then return true
    else fits runner subject rest

def clauseOf (runner : Runner) (subject : ByteText) :
    List (List Word × Option Command) → Script (Option Command)
  | [] => return none
  | (patterns, body) :: rest => do
    if ← fits runner subject patterns then return body else clauseOf runner subject rest

def runSequence (runner : Runner) (manner : Manner) : List Command → Script Unit
  | [] => pure ()
  | [last] => runner.command manner last
  | first :: rest => do
    runner.command manner.followed first
    runSequence runner manner rest

def evaluate (runner : Runner) (manner : Manner) (command : Command) : Script Unit := do
  runCaught runner
  if !(← hasOption 'n') then
    match command with
    | .simple assignments words redirects =>
      runSimple (allCommands callLevels) runner manner assignments words redirects
      leaveOnFailure manner
    | .pipeline commands =>
      runPipeline runner manner commands
      leaveOnFailure manner
    | .subshell body =>
      runSubshell runner manner body []
      leaveOnFailure manner
    | .redirected (.subshell body) redirects =>
      runSubshell runner manner body redirects
      leaveOnFailure manner
    | .background body => runBackground body
    | .negation body =>
      runner.command .test body
      setStatus (if (← status) = 0 then 1 else 0)
    | .both first second =>
      runner.command .test first
      if (← status) = 0 then runner.command manner second
    | .either first second =>
      runner.command .test first
      if (← status) ≠ 0 then runner.command manner second
    | .sequence commands => runSequence runner manner commands
    | .redirected body redirects =>
      withDescriptors do
        if ← redirectAll runner redirects then runner.command manner.followed body
        else
          setStatus errorStatus
          leaveOnFailure manner
    | .conditional test body otherwise =>
      runner.command .test test
      if (← status) = 0 then runner.command manner body
      else
        match otherwise with
        | some other => runner.command manner other
        | none => setStatus 0
    | .loop untilDone test body => runLoop runner manner untilDone test body
    | .each name words body =>
      let values ← match words with
        | some words => expandAll runner words
        | none => pure (← process).arguments
      if values.isEmpty then setStatus 0
      else asLoop (runEach runner manner name body values)
    | .cases subject clauses =>
      let subject ← expandText runner subject
      match ← clauseOf runner subject clauses with
      | some body => runner.command manner body
      | none => setStatus 0
    | .function name body =>
      modifyProcess fun process =>
        { process with
          functions := (name, body) :: process.functions.filter fun entry => entry.1 ≠ name }
      setStatus 0
  runCaught runner

def overflowSignal : Nat := 11

def runnerOf (tools : List (String × Tool)) : Nat → Runner
  | 0 =>
    let overflow : Script Unit := throw (.ended (.ofSignal overflowSignal))
    ⟨fun _ _ => overflow, fun _ _ => overflow, fun _ => overflow⟩
  | depth + 1 =>
    ⟨fun manner command => evaluate (runnerOf tools depth) manner command,
      fun manner text => runText (runnerOf tools depth) manner text,
      fun words => become tools (runnerOf tools depth) words⟩

end DeviceRig.Shell.Script
