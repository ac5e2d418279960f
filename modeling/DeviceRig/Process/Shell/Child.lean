import DeviceRig.Process.Shell.Machine

/-!
Processes that a process starts. A child is run to its end on the clock of its parent, which waits
for it or goes on; what goes on in the background is run when something depends on it.
-/
namespace DeviceRig.Shell.Script

def statusOf (ending : ExitStatus) : Nat :=
  match ending.code?, ending.signal? with
  | some code, _ => code
  | none, some signal => 128 + signal
  | none, none => 0

def endingOf (body : Script Unit) : Script (Option ExitStatus) := do
  try
    body
    return some (.ofCode (← status))
  catch
    | .ended ending => return some ending
    | .endless => return none
    | _ => return some (.ofCode (← status))

/-- Runs a script at the end of a shell, which the script may give another status. -/
def runExitAction (runner : Runner) : Script Unit := do
  match (← process).traps.lookup 0 with
  | none | some [] => pure ()
  | some action =>
    let before ← status
    modifyProcess fun process =>
      { process with
        traps := process.traps.filter fun entry => entry.1 ≠ 0
        interrupted := some before, loops := 0 }
    try
      runner.text .plain action
      setStatus before
    catch
      | .ended ending => throw (.ended ending)
      | .endless => throw .endless
      | .exiting | .failed => pure ()
      | _ => setStatus before

def asShell (runner : Runner) (body : Script Unit) : Script Unit := do
  try body catch
    | .ended ending => throw (.ended ending)
    | .endless => throw .endless
    | _ => pure ()
  runExitAction runner

def newPid : Script Nat := do
  let machine ← get
  set { machine with nextPid := machine.nextPid + 1 }
  return machine.nextPid

/-- A copy of a process, in which signals act by default unless they are ignored. -/
def childOf (process : Process) (pid : Nat) : Process :=
  { process with
    pid
    parent := process.pid
    ancestors := process.parent :: process.ancestors
    traps := process.traps.filter fun entry => entry.2.isEmpty
    caught := []
    interrupted := none }

def runAs (process : Process) (body : Script Unit) : Script (Option ExitStatus) := do
  let before ← Script.process
  modify fun machine => { machine with process }
  let ending ← endingOf body
  modify fun machine => { machine with process := before }
  return ending

def quietSignals : List Nat := [Signal.interrupt, Signal.pipe]

def announce (ending : ExitStatus) : Script Unit := do
  if let some signal := ending.signal? then
    if !quietSignals.contains signal then
      let _ ← write 2 (ByteText.ofString (Signal.description signal ++ "\n"))

def noticeChild : Script Unit := do
  if reception (← process) Signal.childEnded = .caught then catchSignal Signal.childEnded

def waitFor (ending : Option ExitStatus) : Script Unit := do
  match ending with
  | none => passUntil none
  | some ending =>
    passUntil (some (← get).now)
    announce ending
    noticeChild
    let now := (← get).now
    modifyProcess fun process => { process with status := statusOf ending, reapedAt := now }

def inChild (body : Script Unit) : Script Unit := do
  let pid ← newPid
  waitFor (← runAs (childOf (← process) pid) body)

def isListed (parent : Nat) (job : Job) : Bool :=
  job.process.parent = parent && !job.isForgotten

def freeNumber (jobs : List Job) : Nat :=
  let isFree (number : Nat) : Bool := jobs.all fun job => job.number ≠ number
  ((List.range (jobs.length + 1)).map (· + 1)).find? isFree |>.getD 1

/-- Starts a process in the background, which may take the place of one that was waited for. -/
def startJob (process : Process) (body : Command) : Script Unit := do
  modify fun machine =>
    let isOver (job : Job) : Bool := isListed machine.process.pid job && job.waited
    let ended := machine.jobs.find? isOver
    let jobs := machine.jobs.map fun job =>
      if ended.any fun first => first.process.pid = job.process.pid then
        { job with isForgotten := true }
      else job
    let size := match body with
      | .pipeline commands => commands.length
      | _ => 1
    let job : Job :=
      { number := freeNumber (jobs.filter (isListed machine.process.pid)), process, size
        pending := [⟨body, .last, none⟩], now := machine.now, expected := .unknown, ending := none
        isBusy := false, waited := false, isForgotten := false }
    { machine with
      jobs := jobs ++ [job], process := { machine.process with latestJob := some process.pid } }

def modifyJob (pid : Nat) (change : Job → Job) : Script Unit :=
  modify fun machine =>
    { machine with
      jobs := machine.jobs.map fun job => if job.process.pid = pid then change job else job }

def partsOf (pending : PendingCommand) : Option (List PendingCommand) :=
  let ⟨command, manner, _⟩ := pending
  match command with
  | .sequence commands =>
    let ahead := commands.dropLast.map fun command => ⟨command, manner.followed, none⟩
    some (ahead ++ (commands.getLast?.map fun command => ⟨command, manner, none⟩).toList)
  | .both first second => some [⟨first, .test, none⟩, ⟨second, manner, some true⟩]
  | .either first second => some [⟨first, .test, none⟩, ⟨second, manner, some false⟩]
  | .subshell body => if manner.final then some [⟨body, manner, none⟩] else none
  | _ => none

def maxParts : Nat := 1000

def unfoldParts : Nat → List PendingCommand → List PendingCommand
  | 0, pending => pending
  | _ + 1, [] => []
  | count + 1, first :: rest =>
    match first.condition, partsOf first with
    | none, some parts => unfoldParts count (parts ++ rest)
    | _, _ => first :: rest

/-- The first of some commands and those behind it, without those whose conditions are not met. -/
def nextPending? (status : Nat) :
    List PendingCommand → Option (PendingCommand × List PendingCommand)
  | [] => none
  | first :: rest =>
    if first.condition.all fun success => success = decide (status = 0) then
      match unfoldParts maxParts ({ first with condition := none } :: rest) with
      | [] => none
      | first :: rest => some (first, rest)
    else nextPending? status rest

/-- Runs the next command of a job, and what its shell runs at its end if none is left. -/
def runNext (runner : Runner) (pending : List PendingCommand) :
    Script (Option (List PendingCommand)) := do
  match nextPending? (← status) pending with
  | none =>
    runExitAction runner
    return none
  | some (first, rest) =>
    try
      runner.command first.manner first.command
      if rest.isEmpty then
        runExitAction runner
        return none
      else return some rest
    catch
      | .ended ending => throw (.ended ending)
      | .endless => throw .endless
      | _ =>
        runExitAction runner
        return none

/-- Runs the next command of a job on the clock of the job, and gives the job thereafter. -/
def advance (runner : Runner) (job : Job) : Script Job := do
  let before ← get
  modifyJob job.process.pid fun job => { job with isBusy := true }
  modify fun machine => { machine with now := job.now, process := job.process }
  let (pending, ending) ← (do
    try
      match ← runNext runner job.pending with
      | some rest => return (rest, none)
      | none => return ([], some (some (ExitStatus.ofCode (← status))))
    catch
      | .ended ending => return ([], some (some ending))
      | _ => return ([], some none))
  let after ← get
  let ending := ending.map fun status? => status?.map fun status => ⟨after.now, status⟩
  let change (old : Job) : Job :=
    { old with
      process := after.process, pending, now := after.now, expected := .unknown, ending
      isBusy := false }
  modifyJob job.process.pid change
  modify fun machine => { machine with now := before.now, process := before.process }
  if let some (some _) := ending then
    modify fun machine =>
      { machine with
        signals := machine.signals ++ [⟨job.process.parent, after.now, Signal.childEnded⟩] }
  return change job

def expect (runner : Runner) (job : Job) : Script Unit := do
  let before ← get
  let later ← advance runner job
  set before
  let expected := if later.ending = some none then .never else .within later.now
  modifyJob job.process.pid fun job => { job with expected }

def isActive (job : Job) : Bool := job.ending.isNone && !job.isBusy

def maxAdvances : Nat := 100000

def expectAll (runner : Runner) (moment : Nat) : Script Unit := do
  for job in (← get).jobs do
    if isActive job && job.expected = .unknown && job.now ≤ moment then expect runner job

def nextToAdvance? (jobs : List Job) (moment : Nat) : Option Job :=
  let time? (job : Job) : Option Nat :=
    match job.expected with
    | .within time => if isActive job && time ≤ moment then some time else none
    | _ => none
  jobs.foldl (fun found job =>
    match found, time? job with
    | none, some _ => some job
    | some first, some time =>
      if (time? first).any fun earliest => time < earliest then some job else some first
    | found, none => found) none

def advanceJobs (runner : Runner) (moment : Nat) : Nat → Script Unit
  | 0 => pure ()
  | count + 1 => do
    expectAll runner moment
    match nextToAdvance? (← get).jobs moment with
    | none => pure ()
    | some job =>
      let _ ← advance runner job
      advanceJobs runner moment count

def catchUpTo (runner : Runner) (moment : Nat) : Script Unit := do
  if (← get).jobs.any isActive then advanceJobs runner moment maxAdvances

/-- Runs the commands of the background that end by now, and meets the signals that they sent. -/
def catchUp (runner : Runner) : Script Unit := do
  if (← get).jobs.any isActive then
    advanceJobs runner (← get).now maxAdvances
    passUntil (some (← get).now)

/-- Runs those processes of the background to their ends that something depends on. -/
def settleSome (runner : Runner) (concerned : Job → Bool) : Nat → Script Unit
  | 0 => pure ()
  | count + 1 => do
    match (← get).jobs.find? fun job => isActive job && concerned job with
    | none => pure ()
    | some job =>
      let _ ← advance runner job
      settleSome runner concerned count

def settle (runner : Runner) (concerned : Job → Bool) : Script Unit :=
  settleSome runner concerned maxAdvances

def holds (channel : Nat) (job : Job) : Bool :=
  job.process.descriptors.any fun entry => entry.2 = channel

def latest (moments : List (Option Nat)) : Option Nat :=
  moments.foldl (fun last moment =>
    match last, moment with
    | some last, some moment => some (max last moment)
    | _, _ => none) (some 0)

def releaseTime (runner : Runner) (channel : Nat) : Script (Option Nat) := do
  settle runner (holds channel)
  let holders := (← get).jobs.filter (holds channel)
  return latest (holders.map fun job => (job.ending.getD none).map Ending.time)

def written (channel : Nat) : Script (List (Nat × ByteText)) := do
  match ← channel? channel with
  | some (.sink pieces ..) => return pieces.toList
  | _ => return []

end DeviceRig.Shell.Script
