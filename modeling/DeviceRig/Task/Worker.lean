import DeviceRig.Task.Error
import DeviceRig.Task.Run

/-!
The task process. It reads one spec, runs the task that the spec names in a session of its own,
closes the session, and reports in one line.
-/
namespace DeviceRig

open Json

/-- Some bytes that a task process wrote, and its session as it was at that moment. -/
structure WorkerWrite where
  bytes : List UInt8
  place : RigSession

/-- A task process at work: its session and what it wrote so far. -/
structure WorkerState where
  place : RigSession
  writes : List WorkerWrite

namespace WorkerState

def start (settings : TransportSettings) (index : Nat) (rig : Rig) : WorkerState :=
  ⟨.new settings (some index) rig, []⟩

def output (state : WorkerState) : List UInt8 :=
  state.writes.flatMap WorkerWrite.bytes

def closeSession (state : WorkerState) : WorkerState :=
  { state with place := state.place.close.2 }

def write (state : WorkerState) (bytes : List UInt8) : WorkerState :=
  { state with writes := state.writes ++ [⟨bytes, state.place⟩] }

def writeReport (state : WorkerState) (report : TaskReport) : WorkerState :=
  (state.write (Utf8.bytes report.line)).write [10]

end WorkerState

/-- What a task process did: what its task printed, its report, how it ended, and in which state. -/
structure WorkerRun where
  printed : List UInt8
  report : Option TaskReport
  status : ExitStatus
  ignoresTermination : Bool
  last : WorkerState

namespace WorkerRun

def rig (run : WorkerRun) : Rig := run.last.place.rig

def endsAt (run : WorkerRun) : Nat := run.rig.now

def reportLine (run : WorkerRun) : List UInt8 := run.last.output

def succeeded (run : WorkerRun) : Bool :=
  match run.report with
  | some (.result ..) => true
  | _ => false

end WorkerRun

namespace TaskRegistry

def execute (registry : TaskRegistry Task) (spec : TaskSpec) (place : RigSession) : TaskRun :=
  match registry.find? spec.entryPoint with
  | none => .failing (TaskEnd.unknownTask spec.entryPoint) place
  | some task => task (.ofSpec spec) place

def statusOf (run : TaskRun) : ExitStatus :=
  match run.ending with
  | .returned _ => .ofCode 0
  | .failed _ | .panicked _ => .ofCode 1
  | .left status => status

/-- Runs a spec in the session at hand, closes the session and reports with an index. -/
def perform (registry : TaskRegistry Task) (index : Nat) (spec : TaskSpec) :
    StateM WorkerState WorkerRun := do
  let run := registry.execute spec (← get).place
  modify fun state => { state with place := run.place }
  modify WorkerState.closeSession
  let report := run.ending.report? index
  if let some report := report then
    modify fun state => state.writeReport report
  return ⟨run.printed, report, statusOf run, run.ignoresTermination, ← get⟩

def work (registry : TaskRegistry Task) (index : Nat) (input : List UInt8) :
    ExceptT BatchError (StateM WorkerState) WorkerRun :=
  match TaskSpec.decode .streamed input with
  | .error error => throw (.json error)
  | .ok spec => registry.perform index spec

def runSpec (registry : TaskRegistry Task) (settings : TransportSettings) (index : Nat)
    (spec : TaskSpec) (rig : Rig) : WorkerRun :=
  ((registry.perform index spec).run (.start settings index rig)).1

def runWorker (registry : TaskRegistry Task) (settings : TransportSettings) (index : Nat)
    (input : List UInt8) (rig : Rig) : Except BatchError WorkerRun :=
  ((registry.work index input).run.run (.start settings index rig)).1

end TaskRegistry

end DeviceRig
