import DeviceRig.Process.Signal
import DeviceRig.System.Duration
import DeviceRig.System.FileTree

/-!
Processes as they are seen from outside. A behaviour tells, for the signals that are sent to a
process, what it prints and when, and when and how it ends. A child process is a behaviour with a
clock and the signals that were sent; once its end was noticed, its status is kept.
-/
namespace DeviceRig

structure TimedSignal where
  time : Nat
  signal : Nat
deriving DecidableEq, Repr, Inhabited

structure ProcessEnd where
  time : Nat
  status : ExitStatus
deriving DecidableEq, Repr, Inhabited

/-- What a process does: what it prints, and its end, if it comes to one. -/
structure ProcessRun where
  output : List (Nat × List UInt8)
  ending : Option ProcessEnd
deriving DecidableEq, Repr, Inhabited

namespace ProcessRun

def outputUntil (run : ProcessRun) (time : Nat) : List UInt8 :=
  (run.output.filter fun entry => entry.1 ≤ time).flatMap Prod.snd

def endUntil? (run : ProcessRun) (time : Nat) : Option ProcessEnd :=
  run.ending.filter fun ending => ending.time ≤ time

def cutAt (run : ProcessRun) (signal : TimedSignal) : ProcessRun :=
  ⟨run.output.filter fun entry => entry.1 ≤ signal.time,
    some ⟨signal.time, .ofSignal signal.signal⟩⟩

/-- A run that the first signal ends which is not ignored and comes before its own end. -/
def under (run : ProcessRun) (ignored : List Nat) (signals : List TimedSignal) : ProcessRun :=
  let isHeeded (signal : TimedSignal) : Bool :=
    (signal.signal = Signal.kill || !ignored.contains signal.signal) &&
      Signal.defaultAction signal.signal = .ends && (run.endUntil? signal.time).isNone
  match signals.find? isHeeded with
  | some signal => run.cutAt signal
  | none => run

end ProcessRun

/-- What a process does under signals, in the order of their times, as far as it matters up to a
horizon. -/
abbrev ProcessBehaviour := List TimedSignal → Nat → ProcessRun

/-- A program of the system that is to be started. -/
structure ExternalProgram where
  program : String
  arguments : List String
  environment : List (String × String)
  input : List UInt8
  files : FileTree

structure ChildProcess where
  behaviour : ProcessBehaviour
  signals : List TimedSignal
  noticed : Option ExitStatus
  now : Nat

namespace ChildProcess

def start (behaviour : ProcessBehaviour) : ChildProcess := ⟨behaviour, [], none, 0⟩

def send (child : ChildProcess) (signal : Nat) : ChildProcess :=
  if child.noticed.isSome then child
  else { child with signals := child.signals ++ [⟨child.now, signal⟩] }

def terminate (child : ChildProcess) : ChildProcess := child.send Signal.terminate

def kill (child : ChildProcess) : ChildProcess := child.send Signal.kill

def pause (child : ChildProcess) (time : Duration) : ChildProcess :=
  { child with now := child.now + time.nanoseconds }

def wait (child : ChildProcess) (timeout : Duration) : Option ExitStatus × ChildProcess :=
  match child.noticed with
  | some status => (some status, child)
  | none =>
    let deadline := child.now + timeout.nanoseconds
    match (child.behaviour child.signals deadline).endUntil? deadline with
    | some ending =>
      (some ending.status,
        { child with noticed := some ending.status, now := max child.now ending.time })
    | none => (none, { child with now := deadline })

end ChildProcess

end DeviceRig
