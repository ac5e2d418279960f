import DeviceRig.Process.Status
import DeviceRig.System.Duration
import DeviceRig.System.Fault

/-!
Waiting for the processes of a batch. Each is waited for until its deadline, and a batch has one for
all of them. The overdue ones are then handled as a group: all are asked to exit and share one grace
period, and those that still run are killed and share another. A wait that fails counts as still
running and a signal that fails as sent. Time passes only in waits, and a wait takes at most its
timeout.
-/
namespace DeviceRig

inductive WaitOutcome where
  | exited (status : ExitStatus)
  | running
  | fault (fault : Fault)
deriving DecidableEq, Repr, Inhabited

namespace WaitOutcome

def status? : WaitOutcome → Option ExitStatus
  | .exited status => some status
  | .running | .fault _ => none

def fault? : WaitOutcome → Option Fault
  | .fault reason => some reason
  | .exited _ | .running => none

end WaitOutcome

/-- One wait as the process answers it: what it tells and how long it takes, if it may. -/
structure WaitAnswer where
  outcome : WaitOutcome
  takes : Duration
deriving DecidableEq, Repr, Inhabited

/-- A process as its supervisor meets it: its answers to waits, after which it goes on running, and
the failures of the two signals. Whatever a process goes by, these are all that it shows. -/
structure ProcessScript where
  waits : List WaitAnswer
  terminateFault : Option Fault
  killFault : Option Fault
deriving DecidableEq, Repr, Inhabited

inductive ProcessCall where
  | wait (timeout : Duration)
  | terminate
  | kill
deriving DecidableEq, Repr, Inhabited

def ProcessScript.signalFault (process : ProcessScript) : ProcessCall → Option Fault
  | .wait _ => none
  | .terminate => process.terminateFault
  | .kill => process.killFault

/-- A call on the process in a slot, the time at which it is made, and why it failed if it did,
which is only noted. -/
structure ProcessEvent where
  slot : Nat
  call : ProcessCall
  time : Duration
  fault : Option Fault
deriving DecidableEq, Repr, Inhabited

inductive Resolution where
  | exited (status : ExitStatus)
  | terminated
  | killed
  | unresponsive
deriving DecidableEq, Repr, Inhabited

structure Grace where
  terminate : Duration
  kill : Duration
  drain : Duration
deriving DecidableEq, Repr, Inhabited

def Grace.usual : Grace := ⟨.ofSeconds 3, .ofSeconds 3, .ofSeconds 1⟩

/-- The processes, the clock and the calls made so far, latest first. -/
structure Supervisor where
  processes : List ProcessScript
  clock : Duration
  events : List ProcessEvent
deriving DecidableEq, Repr, Inhabited

namespace Supervisor

def new (processes : List ProcessScript) (clock : Duration) : Supervisor := ⟨processes, clock, []⟩

def waitsLeft (supervisor : Supervisor) (slot : Nat) : List WaitAnswer :=
  ((supervisor.processes[slot]?).map ProcessScript.waits).getD []

/-- Waits for a process until a moment; even when that time has passed, it is asked once. -/
def wait (supervisor : Supervisor) (slot : Nat) (moment : Duration) :
    Option ExitStatus × Supervisor :=
  let timeout : Duration := ⟨moment.nanoseconds - supervisor.clock.nanoseconds⟩
  let answer := (supervisor.waitsLeft slot).headD ⟨.running, timeout⟩
  let takes := min answer.takes.nanoseconds timeout.nanoseconds
  (answer.outcome.status?,
    { processes := supervisor.processes.modify slot fun process =>
        { process with waits := process.waits.drop 1 }
      clock := ⟨supervisor.clock.nanoseconds + takes⟩
      events := ⟨slot, .wait timeout, supervisor.clock, answer.outcome.fault?⟩ ::
        supervisor.events })

def signal (supervisor : Supervisor) (call : ProcessCall) (slot : Nat) : Supervisor :=
  let fault := supervisor.processes[slot]?.bind fun process => process.signalFault call
  { supervisor with events := ⟨slot, call, supervisor.clock, fault⟩ :: supervisor.events }

/-- Waits for the processes in some slots, each until a moment of its slot: the statuses of those
that ended, in order, and none for those that still run. -/
def waitEach (supervisor : Supervisor) (moments : Nat → Duration) :
    List Nat → List (Nat × Option ExitStatus) × Supervisor
  | [] => ([], supervisor)
  | slot :: rest =>
    let (status, supervisor) := supervisor.wait slot (moments slot)
    let (others, supervisor) := waitEach supervisor moments rest
    ((slot, status) :: others, supervisor)

def stillRunning (waited : List (Nat × Option ExitStatus)) : List Nat :=
  (waited.filter fun entry => entry.2.isNone).map Prod.fst

/-- Notes how the processes ended that a round of waiting found ended. -/
def settle (resolution : ExitStatus → Resolution) (resolutions : List Resolution)
    (waited : List (Nat × Option ExitStatus)) : List Resolution :=
  waited.foldl (fun resolutions entry =>
    match entry.2 with
    | some status => resolutions.set entry.1 (resolution status)
    | none => resolutions) resolutions

/-- The first round: all processes are waited for, each until its own deadline. -/
def awaitDeadlines (supervisor : Supervisor) (deadlines : Nat → Duration) :
    List (Nat × Option ExitStatus) × Supervisor :=
  supervisor.waitEach deadlines (List.range supervisor.processes.length)

/-- A later round: the processes in some slots are sent a signal, all of them, and then waited for
during a grace that they share. -/
def escalate (supervisor : Supervisor) (call : ProcessCall) (grace : Duration) (slots : List Nat) :
    List (Nat × Option ExitStatus) × Supervisor :=
  let supervisor := slots.foldl (fun supervisor slot => supervisor.signal call slot) supervisor
  let graceEnd : Duration := ⟨supervisor.clock.nanoseconds + grace.nanoseconds⟩
  supervisor.waitEach (fun _ => graceEnd) slots

/-- Waits for all processes, each until the deadline of its slot, and escalates on the overdue
ones. Until it is known better a process counts as unresponsive. -/
def awaitEach (supervisor : Supervisor) (deadlines : Nat → Duration) (grace : Grace) :
    List Resolution × Supervisor :=
  let unknown := List.replicate supervisor.processes.length Resolution.unresponsive
  let (first, supervisor) := supervisor.awaitDeadlines deadlines
  let (second, supervisor) := supervisor.escalate .terminate grace.terminate (stillRunning first)
  let (third, supervisor) := supervisor.escalate .kill grace.kill (stillRunning second)
  let resolutions := settle (fun _ => .terminated) (settle .exited unknown first) second
  (settle (fun _ => .killed) resolutions third, supervisor)

/-- Waits for all processes until a deadline that they share, and escalates on the overdue ones. -/
def awaitAll (supervisor : Supervisor) (deadline : Duration) (grace : Grace) :
    List Resolution × Supervisor :=
  supervisor.awaitEach (fun _ => deadline) grace

def callsOn (supervisor : Supervisor) (slot : Nat) : List ProcessCall :=
  (supervisor.events.reverse.filter fun event => event.slot = slot).map ProcessEvent.call

end Supervisor

end DeviceRig
