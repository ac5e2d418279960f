import DeviceRig.Process.Behaviour
import DeviceRig.Task.Outcome
import DeviceRig.Task.Stream
import DeviceRig.Task.Supervision
import DeviceRig.Task.Worker

/-!
Running a batch. Every spec gets a process of its own, all under one deadline; what each one prints
until it ends or is stopped is read for its report, and the reports fill the slots of the batch. A
process that cannot be launched fails its own slot only.
-/
namespace DeviceRig

inductive Launch where
  | started (behaviour : ProcessBehaviour)
  | refused (error : BatchError)
deriving Inhabited

namespace Launch

def spawnKind : String := "SpawnError"

/-- When the grace of each kind ends for processes that are overdue. -/
def terminateEnd (deadline : Duration) (grace : Grace) : Nat :=
  deadline.nanoseconds + grace.terminate.nanoseconds

def killEnd (deadline : Duration) (grace : Grace) : Nat :=
  terminateEnd deadline grace + grace.kill.nanoseconds

/-- When nothing that is printed counts any more. -/
def drainEnd (deadline : Duration) (grace : Grace) : Nat :=
  killEnd deadline grace + grace.drain.nanoseconds

/-- The signals that a process gets from its supervisor: none if it ends in time, then a request to
terminate, and if that is of no use it is killed. -/
def signals (deadline : Duration) (grace : Grace) (behaviour : ProcessBehaviour) :
    List TimedSignal :=
  let request : TimedSignal := ⟨deadline.nanoseconds, Signal.terminate⟩
  let last : TimedSignal := ⟨terminateEnd deadline grace, Signal.kill⟩
  if ((behaviour [] request.time).endUntil? request.time).isSome then []
  else if ((behaviour [request] last.time).endUntil? last.time).isSome then [request]
  else [request, last]

def run (deadline : Duration) (grace : Grace) (behaviour : ProcessBehaviour) : ProcessRun :=
  behaviour (signals deadline grace behaviour) (drainEnd deadline grace)

def script (deadline : Duration) (grace : Grace) (behaviour : ProcessBehaviour) : ProcessScript :=
  let outcome : WaitOutcome := match (run deadline grace behaviour).ending with
    | some ending => .exited ending.status
    | none => .running
  let ended := ((run deadline grace behaviour).ending.map ProcessEnd.time).getD 0
  let overdue : WaitAnswer := ⟨.running, deadline⟩
  let waits : List WaitAnswer := match (signals deadline grace behaviour).length with
    | 0 => [⟨outcome, ⟨ended⟩⟩]
    | 1 => [overdue, ⟨outcome, ⟨ended - deadline.nanoseconds⟩⟩]
    | _ => [overdue, ⟨.running, grace.terminate⟩,
        ⟨outcome, ⟨ended - terminateEnd deadline grace⟩⟩]
  ⟨waits, none, none⟩

/-- When a process is done with, at the latest when the last grace ends. -/
def doneAt (deadline : Duration) (grace : Grace) : Launch → Nat
  | .started behaviour =>
    let ended := (run deadline grace behaviour).ending.map ProcessEnd.time
    min (ended.getD (killEnd deadline grace)) (killEnd deadline grace)
  | .refused _ => 0

/-- The reports that a launch brings for the slot of an index, of what is printed up to a moment. -/
def reports (deadline : Duration) (grace : Grace) (moment index : Nat) : Launch → List TaskReport
  | .started behaviour =>
    TaskReport.ofOutput index ((run deadline grace behaviour).outputUntil moment)
  | .refused error => [.failed index ⟨spawnKind, error.message⟩]

end Launch

def reportsFrom (deadline : Duration) (grace : Grace) (moment index : Nat) :
    List Launch → List TaskReport
  | [] => []
  | launch :: rest =>
    launch.reports deadline grace moment index ++ reportsFrom deadline grace moment (index + 1) rest

/-- When nothing of a batch is waited for any more: all its processes are done with, and what they
have left running had its time. -/
def batchEnd (deadline : Duration) (grace : Grace) (launches : List Launch) : Nat :=
  (launches.map (Launch.doneAt deadline grace)).foldl max 0 + grace.drain.nanoseconds

def collectLaunches (deadline : Duration) (grace : Grace) (launches : List Launch) :
    BatchOutcome :=
  let reports := reportsFrom deadline grace (batchEnd deadline grace launches) 0 launches
  (Arrivals.empty.addAll reports).reconcile launches.length

def resolveLaunches (deadline : Duration) (grace : Grace) (launches : List Launch) :
    List Resolution :=
  let behaviours := launches.filterMap fun launch =>
    match launch with
    | .started behaviour => some behaviour
    | .refused _ => none
  ((Supervisor.new (behaviours.map (Launch.script deadline grace)) ⟨0⟩).awaitAll deadline grace).1

namespace WorkerRun

/-- The process that runs a task: it prints at once and reports at its end. -/
def behaviour (run : WorkerRun) (startedAt : Nat) : ProcessBehaviour := fun signals _ =>
  let endsAt := run.endsAt - startedAt
  let whole : ProcessRun :=
    ⟨[(0, run.printed), (endsAt, run.reportLine)], some ⟨endsAt, run.status⟩⟩
  whole.under (if run.ignoresTermination then [Signal.terminate] else []) signals

end WorkerRun

/-- The program that task processes run. -/
inductive TaskProgram where
  | worker (registry : TaskRegistry Task) (settings : TransportSettings)
  /-- A program of the system, with what starting such a program comes to. -/
  | external (start : ExternalProgram → Except Fault ProcessBehaviour) (program : String)
    (arguments : List String) (logLevel : Option String)

namespace TaskProgram

def workerVariable : String := "DEVLINK_WORKER"

def indexVariable : String := "DEVLINK_TASK_INDEX"

def levelVariable : String := "DEVLINK_LOG_LEVEL"

def unreadableStatus : ExitStatus := .ofCode 125

def launch (program : TaskProgram) (index : Nat) (spec : TaskSpec) (rig : Rig) : Launch × Rig :=
  let input := Utf8.bytes spec.toValue.compact
  match program with
  | .worker registry settings =>
    match registry.runWorker settings index input rig with
    | .ok run => (.started (run.behaviour rig.now), run.rig)
    | .error _ => (.started fun _ _ => ⟨[], some ⟨0, unreadableStatus⟩⟩, rig)
  | .external start path arguments logLevel =>
    let level := match logLevel with
      | some level => [(levelVariable, level)]
      | none => []
    let environment := [(workerVariable, "1"), (indexVariable, toString index)] ++ level
    match start ⟨path, arguments, environment, input, rig.files⟩ with
    | .ok behaviour => (.started behaviour, rig)
    | .error fault => (.refused (.notSpawned index fault), rig)

def launchFrom (program : TaskProgram) (index : Nat) (rig : Rig) :
    List TaskSpec → List Launch × Rig
  | [] => ([], rig)
  | spec :: rest =>
    let (launch, rig) := program.launch index spec rig
    let (launches, rig) := program.launchFrom (index + 1) rig rest
    (launch :: launches, rig)

end TaskProgram

def executeBatch (program : TaskProgram) (specs : List TaskSpec) (deadline : Duration)
    (grace : Grace) (policy : ErrorPolicy) (rig : Rig) :
    Except BatchError BatchOutcome × Rig :=
  let (launches, rig) := program.launchFrom 0 rig specs
  (policy.apply (collectLaunches deadline grace launches), rig)

end DeviceRig
