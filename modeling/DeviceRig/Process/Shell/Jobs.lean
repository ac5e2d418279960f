import DeviceRig.Process.Shell.Builtin
import DeviceRig.Process.Shell.Child

/-!
Commands on signals and on processes in the background: sending signals, waiting for ends, and
arranging what signals do.
-/
namespace DeviceRig.Shell.Jobs

open Script Builtin

def ownJobs : Script (List Job) := do
  let machine ← get
  return machine.jobs.filter (isListed machine.process.pid)

/-- The job that a text names by its place in the list, or as the last or the one before. -/
def jobOf (command : String) (argument : ByteText) : Script Job := do
  let jobs ← ownJobs
  let place := String.ofList (argument.drop 1)
  let job? := match place.toNat? with
    | some number => jobs.find? fun job => job.number = number
    | none =>
      if place = "" || place = "%" || place = "+" then jobs.getLast?
      else if place = "-" then jobs.dropLast.getLast?
      else none
  match job? with
  | some job => return job
  | none => fail s!"{command}: No such job: {argument.toText}"

def namesJob (argument : ByteText) : Bool := argument.head? = some '%'

/-- The process that an argument names by its place among the jobs or by its number. -/
def pidOf (command : String) (argument : ByteText) : Script Nat := do
  if namesJob argument then return (← jobOf command argument).process.pid
  else numberOf command argument

/-! Sending signals -/

def signalOf? (least : Nat) (text : ByteText) : Option Nat :=
  let word := String.ofList text
  if !text.isEmpty && text.all isDigit then
    word.toNat?.filter fun number => least ≤ number && number ≤ Signal.largest
  else if least = 0 && word.toUpper = "EXIT" then some 0
  else Signal.ofName? word

/-- Whether a process of the background has ended and is known to have. It is run to see that, but
remains as it was, since signals may still come to it. -/
def isGone (runner : Runner) (pid : Nat) : Script Bool := do
  let before ← get
  settle runner fun job => job.process.pid = pid
  let after ← get
  set before
  match after.jobs.find? fun job => job.process.pid = pid with
  | some job =>
    return (job.ending.getD none).any fun ending =>
      (job.waited && ending.time ≤ before.now) || ending.time ≤ before.process.reapedAt
  | none => return false

def sendTo (runner : Runner) (pid signal : Nat) : Script Bool := do
  let machine ← get
  let isJob := machine.jobs.any fun job => job.process.pid = pid
  let process := machine.process
  let isRunning := (process.pid :: process.parent :: process.ancestors).contains pid
  if isJob && (← isGone runner pid) then return false
  if isJob || isRunning then
    if signal ≠ 0 then send pid signal
    return true
  else return pid = 1

def signalList : String :=
  let names := (List.range Signal.largest).map fun number =>
    let name := Signal.name (number + 1)
    if number + 1 = 16 || number + 1 = 32 || number + 1 = 33 then toString (number + 1) else name
  "\n".intercalate ("0" :: names)

def usage : String :=
  "kill: Usage: kill [-s sigspec | -signum | -sigspec] [pid | job]... or\nkill -l [exitstatus]"

def listSignal (arguments : List ByteText) : Script Nat := do
  match arguments with
  | [] =>
    sayLine signalList
    return 0
  | status :: _ =>
    let number ← numberOf "kill" status
    let number := if 128 < number then number - 128 else number
    if 0 < number && number ≤ Signal.largest then
      sayLine (Signal.name number)
      return 0
    else fail s!"kill: invalid signal number or exit status: {status.toText}"

def kill (runner : Runner) (arguments : List ByteText) : Script Nat := do
  let (signal?, lists, rest) ← match arguments with
    | ('-' :: name) :: rest =>
      match signalOf? 0 name with
      | some signal => pure (some signal, false, rest)
      | none =>
        let (letters, rest) ← readOptions "kill" "ls:" arguments
        let mut signal? : Option Nat := none
        for (letter, value) in letters do
          if letter = 's' then
            match signalOf? 0 value with
            | some signal => signal? := some signal
            | none => fail s!"kill: invalid signal number or name: {value.toText}"
        pure (signal?, letters.any fun entry => entry.1 = 'l', rest)
    | _ => pure (none, false, arguments)
  if lists then
    if signal?.isSome then fail usage
    listSignal rest
  else
    if rest.isEmpty then fail usage
    let signal := signal?.getD Signal.terminate
    let mut status := 0
    for argument in rest do
      let sent ← match argument with
        | '-' :: group =>
          let _ ← numberOf "kill" group
          pure false
        | _ =>
          let pid ← pidOf "kill" argument
          let own := (← process).pid
          -- A job is no group of its own to which a signal could be sent.
          if namesJob argument then pure false
          else sendTo runner (if pid = 0 then own else pid) signal
      if !sent then
        complain "kill: No such process\n"
        status := 1
    passUntil (some (← get).now)
    return status

/-! Waiting -/

/-- Waits for processes of the background, or until a signal comes whose action is to run; then
the status that the signal stands for is given. -/
def awaitAll (runner : Runner) (pids : List Nat) : Script (Option Nat) := do
  let before ← get
  let isMeant (job : Job) : Bool := pids.contains job.process.pid
  settle runner isMeant
  let machine ← get
  let ends := latest ((machine.jobs.filter isMeant).map fun job =>
    (job.ending.getD none).map Ending.time)
  catchUpTo runner (ends.getD machine.horizon)
  let machine ← get
  let interrupting := machine.signals.filter fun signal =>
    signal.target = machine.process.pid && reception machine.process signal.signal = .caught &&
      ends.all fun moment => signal.time < moment
  match earliest? interrupting with
  | some signal =>
    set before
    passUntil (some (max before.now signal.time))
    return some (128 + signal.signal)
  | none =>
    passUntil (ends.map (max machine.now))
    let after ← get
    modifyProcess fun process => { process with reapedAt := after.now }
    for pid in pids do
      modifyJob pid fun job => { job with waited := true }
    return none

def wait (runner : Runner) (arguments : List ByteText) : Script Nat := do
  let (_, rest) ← readOptions "wait" "" arguments
  if rest.isEmpty then
    let pids := (← ownJobs).map fun job => job.process.pid
    return (← awaitAll runner pids).getD 0
  else
    let mut status := 0
    for argument in rest do
      let pid ← pidOf "wait" argument
      if (← ownJobs).any fun job => job.process.pid = pid then
        let reapedAt := (← process).reapedAt
        match ← awaitAll runner [pid] with
        | some interrupted => return interrupted
        | none =>
          let job? := (← get).jobs.find? fun job => job.process.pid = pid
          match job?.bind fun job => job.ending.getD none with
          | some ending =>
            if reapedAt < ending.time then announce ending.status
            status := statusOf ending.status
          | none => status := 0
      else status := 127
    return status

/-! Listing -/

def jobState (ending : Option ExitStatus) : String :=
  match ending with
  | none => "Running"
  | some status =>
    match status.code?, status.signal? with
    | some 0, _ => "Done"
    | some code, _ => s!"Done({code})"
    | none, some signal => Signal.description signal
    | none, none => ""

def stateWidth : Nat := 33

def jobLine (mark : Char) (withPid : Bool) (job : Job) (ending : Option ExitStatus) : String :=
  let number := s!"[{job.number}]"
  let start := number ++ String.ofList
    (List.replicate (4 - number.length) ' ' ++ [mark, ' '])
  let pid := if withPid then s!"{job.process.pid} " else ""
  let text := start ++ pid ++ jobState ending
  text ++ String.ofList (List.replicate (max 1 (stateWidth - text.length)) ' ') ++
    String.join (List.replicate (job.size - 1) " | ")

/-- The ends of jobs that have come by now. The jobs are run to see them, but remain as they
were. -/
def knownEnds (runner : Runner) : Script (List (Nat × ExitStatus)) := do
  let before ← get
  settle runner (isListed before.process.pid)
  let after ← get
  set before
  return after.jobs.filterMap fun job =>
    ((job.ending.getD none).filter fun ending => ending.time ≤ before.now).map fun ending =>
      (job.process.pid, ending.status)

def list (runner : Runner) (arguments : List ByteText) : Script Nat := do
  let (letters, rest) ← readOptions "jobs" "lp" arguments
  let jobs ← ownJobs
  let ends ← knownEnds runner
  let now := (← get).now
  modifyProcess fun process => { process with reapedAt := now }
  let meant ← if rest.isEmpty then pure jobs.reverse else rest.mapM (jobOf "jobs")
  for job in meant do
    let pid := job.process.pid
    let ending := ends.lookup pid
    let jobs ← ownJobs
    let current := (jobs.getLast?.map Job.number).getD 0
    let previous := (jobs.dropLast.getLast?.map Job.number).getD 0
    if letters.any fun entry => entry.1 = 'p' then sayLine (toString pid)
    else
      let mark := if job.number = current then '+' else if job.number = previous then '-' else ' '
      sayLine (jobLine mark (letters.any fun entry => entry.1 = 'l') job ending)
      if ending.isSome then modifyJob pid fun job => { job with isForgotten := true }
  return 0

/-- Refuses to bring a job to the front or the back, for which a terminal would be needed. -/
def resume (command : String) (arguments : List ByteText) : Script Nat := do
  let (_, rest) ← readOptions command "" arguments
  match rest with
  | [] =>
    if (← ownJobs).isEmpty then fail s!"{command}: No current job"
    else fail s!"{command}: job (null) not created under job control"
  | argument :: _ =>
    let _ ← jobOf command (if namesJob argument then argument else '%' :: argument)
    fail s!"{command}: job {argument.toText} not created under job control"

/-! Actions of signals -/

def eventName (signal : Nat) : String :=
  if signal = 0 then "EXIT" else Signal.name signal

def listTraps : Script Unit := do
  let traps := (← process).traps.mergeSort fun a b => decide (a.1 ≤ b.1)
  for (signal, action) in traps do
    say ("trap -- ".toList ++ quoted action ++ ' ' :: (eventName signal).toList ++ ['\n'])

def setTraps (action : Option ByteText) : List ByteText → Script Nat
  | [] => return 0
  | name :: rest => do
    match signalOf? 0 name with
    | none =>
      let _ ← write 2 (ByteText.ofString s!"trap: {name.toText}: bad trap\n")
      return 1
    | some signal =>
      modifyProcess fun process =>
        let others := process.traps.filter fun entry => entry.1 ≠ signal
        { process with
          traps := match action with
            | some action => (signal, action) :: others
            | none => others }
      setTraps action rest

def trap (arguments : List ByteText) : Script Nat := do
  let (_, rest) ← readOptions "trap" "" arguments
  match rest with
  | [] =>
    listTraps
    return 0
  | action :: signals =>
    if signals.isEmpty || (!action.isEmpty && action.all isDigit) then setTraps none rest
    else setTraps (if action = ['-'] then none else some action) signals

end DeviceRig.Shell.Jobs
