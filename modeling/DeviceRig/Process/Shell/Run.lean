import DeviceRig.Process.Shell.Expansion
import DeviceRig.Process.Shell.Jobs

/-!
Running commands. A command is run by what it is made of: simple commands expand their words,
redirect and run something by name; the others run commands within them, in the same process or in
a child. What runs the commands within is a parameter, so that every rule stands by itself.
-/
namespace DeviceRig.Shell.Script

def restoring (giveBack : Process → Process → Process) (body : Script Unit) : Script Unit := do
  let before ← process
  try body catch stop =>
    modifyProcess (giveBack before)
    throw stop
  modifyProcess (giveBack before)

/-! Actions of signals -/

/-- Runs the actions of signals that came in, after which the status is what it was. -/
def runTraps (runner : Runner) : Nat → Script Unit
  | 0 => pure ()
  | count + 1 => do
    let process ← process
    match process.caught.mergeSort with
    | [] => pure ()
    | signal :: later =>
      modifyProcess fun process => { process with caught := later }
      match process.traps.lookup signal with
      | none | some [] => pure ()
      | some action =>
        let outer := process.interrupted
        let before := outer.getD process.status
        let giveBack (_ process : Process) : Process := { process with interrupted := outer }
        restoring giveBack do
          modifyProcess fun process => { process with interrupted := some before }
          runner.text .plain action
        setStatus before
      runTraps runner count

def maxSignals : Nat := 100

def runCaught (runner : Runner) : Script Unit := do
  if !(← process).caught.isEmpty then runTraps runner maxSignals

def leaveOnFailure (manner : Manner) : Script Unit := do
  if !manner.tested && (← status) ≠ 0 && (← hasOption 'e') then throw .exiting

def hasTraps : Script Bool := do
  return (← process).traps.any fun entry => !entry.2.isEmpty

/-! Redirections -/

def openMessage (mode : OpenMode) (path : ByteText) (fault : Fault) : String :=
  let creates := mode ≠ .read
  let reason :=
    if fault = .noSuchFile || fault = .notADirectory then
      if creates then "Directory nonexistent" else "No such file"
    else fault.reason
  let verb := if creates then "create" else "open"
  s!"cannot {verb} {path.toText}: {reason}"

def isProtected (path : ByteText) : Script Bool := do
  if !(← hasOption 'C') then return false
  match (← get).files.entryAt true (← pathOf path) with
  | .ok (_, ⟨.regular _, _, _⟩) => return true
  | _ => return false

def redirect (runner : Runner) : Redirect → Script Bool
  | .file descriptor mode target => do
    let path ← expandText runner target
    let opened ←
      if mode = .write && (← isProtected path) then pure (.error .fileExists)
      else openFile path mode
    match opened with
    | .ok channel =>
      setDescriptor descriptor (some channel)
      return true
    | .error fault =>
      complain (openMessage mode path fault)
      return false
  | .duplicate descriptor target => do
    match ← expandText runner target with
    | ['-'] =>
      setDescriptor descriptor none
      return true
    | text =>
      match text with
      | [c] =>
        if !isDigit c then fail "Syntax error: Bad fd number"
        match ← channelOf? (c.toNat - '0'.toNat) with
        | some channel =>
          setDescriptor descriptor (some channel)
          return true
        | none =>
          complain s!"{c}: Bad file descriptor"
          return false
      | _ => fail "Syntax error: Bad fd number"
  | .document descriptor number => do
    let machine ← get
    let text ← expandText runner (machine.documents[number]?.getD [])
    let now := (← get).now
    setDescriptor descriptor (some (← newChannel (.source [(now, text)] (some now))))
    return true

def redirectAll (runner : Runner) : List Redirect → Script Bool
  | [] => return true
  | first :: rest => do
    if ← redirect runner first then redirectAll runner rest else return false

def withDescriptors (body : Script Unit) : Script Unit :=
  restoring (fun before process => { process with descriptors := before.descriptors }) body

/-! Loops -/

/-- Runs a body with the status of the last round, again and again as long as it asks for it. -/
def repeatRounds (body : Nat → Script (Nat × Bool)) :
    Nat → Nat → Machine → Except Stop Nat × Machine
  | 0, _, machine => (.error .endless, machine)
  | rounds + 1, last, machine =>
    match (body last).run machine with
    | (.ok (last, true), machine) => repeatRounds body rounds last machine
    | (.ok (last, false), machine) => (.ok last, machine)
    | (.error stop, machine) => (.error stop, machine)

/-- Runs a part of a loop. If a command leaves this very loop, this is whether it goes on. -/
def inLoop (body : Script Unit) : Script (Option Bool) := do
  try
    body
    return none
  catch
    | .leaving levels again =>
      if 1 < levels then throw (.leaving (levels - 1) again)
      return some again
    | stop => throw stop

def asLoop (body : Script Unit) : Script Unit := do
  restoring (fun before process => { process with loops := before.loops }) do
    modifyProcess fun process => { process with loops := process.loops + 1 }
    body

def runLoop (runner : Runner) (manner : Manner) (untilDone : Bool) (test body : Command) :
    Script Unit :=
  asLoop do
    let round (last : Nat) : Script (Nat × Bool) := do
      step
      match ← inLoop (runner.command .test test) with
      | some again => return (last, again)
      | none =>
        if ((← status) = 0) = untilDone then return (last, false)
        let left ← inLoop (runner.command manner.followed body)
        return (← status, left.getD true)
    let last ← fun machine => repeatRounds round maxSteps 0 machine
    setStatus last

def runEach (runner : Runner) (manner : Manner) (name : String) (body : Command) :
    List ByteText → Script Unit
  | [] => pure ()
  | value :: rest => do
    step
    assign name value
    let left ← inLoop (runner.command manner.followed body)
    if left.getD true then runEach runner manner name body rest

/-! Children -/

def runSubshell (runner : Runner) (manner : Manner) (body : Command) (redirects : List Redirect) :
    Script Unit := do
  let inner : Script Unit := do
    if !(← redirectAll runner redirects) then
      setStatus errorStatus
      throw .failed
    runner.command { manner with final := true } body
  if manner.final && !(← hasTraps) then
    inner
    throw .exiting
  else inChild (asShell runner inner)

/-- Runs the commands of a pipeline one after the other, each reading what the one before wrote,
and gives their ends, the last first. -/
def runStages (runner : Runner) (manner : Manner) (start : Nat) (input : Option Nat) :
    List Command → Script (List (Option Ending × List (Nat × ByteText)))
  | [] => return []
  | command :: rest => do
    let output ← if rest.isEmpty then pure none else some <$> newChannel (.sink #[] 0 false)
    let pid ← newPid
    let child := childOf (← process) pid
    let redirected (descriptors : List (Nat × Nat)) (descriptor : Nat) (channel : Option Nat) :=
      match channel with
      | some channel => (descriptor, channel) :: descriptors.filter (·.1 ≠ descriptor)
      | none => descriptors
    let descriptors := redirected (redirected child.descriptors 0 input) 1 output
    modify fun machine => { machine with now := start }
    let ending ← runAs { child with descriptors }
      (asShell runner (runner.command { manner with final := true } command))
    let ended := (← get).now
    let ending? : Option Ending := ending.map fun status => ⟨ended, status⟩
    match output with
    | none => return [(ending?, [])]
    | some channel =>
      let release ← releaseTime runner channel
      let pieces ← written channel
      setChannel channel (.source pieces (latest [ending?.map Ending.time, release]))
      return (← runStages runner manner start (some channel) rest) ++ [(ending?, pieces)]

/-- When the commands of a pipeline end, the last first. One that writes when its reader is gone
ends with that. -/
def stageEnds (reader : Option Nat) :
    List (Option Ending × List (Nat × ByteText)) → List (Option Nat)
  | [] => []
  | (ending, pieces) :: rest =>
    let time := ending.map Ending.time
    let broken := reader.bind fun reader =>
      (pieces.find? fun piece => reader < piece.1).map Prod.fst
    let time := match time, broken with
      | some time, some broken => some (min time broken)
      | none, broken => broken
      | time, none => time
    time :: stageEnds time rest

def runPipeline (runner : Runner) (manner : Manner) (commands : List Command) : Script Unit := do
  let start := (← get).now
  let stages ← runStages runner manner start none commands
  let ends := latest (stageEnds none stages)
  modify fun machine => { machine with now := start }
  passUntil ends
  let endings := stages.filterMap Prod.fst
  for ending in endings.mergeSort fun a b => decide (a.time ≤ b.time) do
    announce ending.status
  if !endings.isEmpty then noticeChild
  match stages with
  | (some ending, _) :: _ => setStatus (statusOf ending.status)
  | _ => passUntil none

def terminalSignals : List Nat := [2, 3]

def runBackground (command : Command) : Script Unit := do
  let pid ← newPid
  let child := childOf (← process) pid
  let nothing ← newChannel .nothing
  startJob { child with
    descriptors := (0, nothing) :: child.descriptors.filter fun entry => entry.1 ≠ 0
    unreachable := terminalSignals ++ child.unreachable } command
  setStatus 0

/-! Functions and scripts -/

def inScope (body : Script Unit) : Script Unit := do
  modifyProcess fun process => { process with locals := [] :: process.locals }
  try body catch stop =>
    Builtin.restoreLocals
    throw stop
  Builtin.restoreLocals

def maxCalls : Nat := 1000

def callFunction (runner : Runner) (manner : Manner) (body : Command) (arguments : List ByteText) :
    Script Unit := do
  if maxCalls ≤ (← process).calls then
    fail s!"Maximum function recursion depth ({maxCalls}) reached"
  let giveBack (before process : Process) : Process :=
    { process with
      arguments := before.arguments, loops := before.loops, calls := before.calls
      optionPlace := before.optionPlace }
  restoring giveBack do
    modifyProcess fun process =>
      { process with
        arguments, loops := 0, calls := process.calls + 1, optionPlace := (1, 0) }
    inScope do
      try runner.command manner.followed body catch
        | .returning => pure ()
        | stop => throw stop

/-- Reads a script line by line and runs what the lines hold; tells whether that was anything. -/
def runLines (runner : Runner) (manner : Manner) (ranAny : Bool) : Nat → ByteText → Script Bool
  | 0, _ => return ranAny
  | lines + 1, text => do
    let machine ← get
    match readLine machine.process.aliases machine.documents text with
    | .error flaw => fail flaw.message
    | .ok none => return ranAny
    | .ok (some line) =>
      modify fun machine => { machine with documents := line.documents }
      let runsNow := !line.commands.isEmpty
      if runsNow then
        runner.command { manner with final := manner.final && line.isLast }
          (.sequence line.commands)
      if line.isLast then return ranAny || runsNow
      else runLines runner manner (ranAny || runsNow) lines line.rest

def runText (runner : Runner) (manner : Manner) (text : ByteText) : Script Unit := do
  if !(← runLines runner manner false (text.length + 1) text) then setStatus 0

end DeviceRig.Shell.Script
