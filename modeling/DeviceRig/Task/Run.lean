import DeviceRig.Process.Status
import DeviceRig.Rig.Session
import DeviceRig.Task.Registry
import DeviceRig.Task.Report

/-!
Runs of tasks. A task gets its arguments and a session of its own; it returns a value, fails or
panics, or its process ends before it could. On the way it may print.
-/
namespace DeviceRig

open Json

inductive TaskEnd where
  | returned (value : Value)
  | failed (failure : TaskFailure)
  | panicked (text : Option String)
  | left (status : ExitStatus)
deriving BEq, Repr, Inhabited

structure TaskRun where
  ending : TaskEnd
  printed : List UInt8
  ignoresTermination : Bool
  place : RigSession

abbrev Task := TaskArgs → RigSession → TaskRun

namespace TaskRun

def quiet (ending : TaskEnd) (place : RigSession) : TaskRun := ⟨ending, [], false, place⟩

def failing (failure : TaskFailure) (place : RigSession) : TaskRun := quiet (.failed failure) place

end TaskRun

def TaskEnd.ofExcept : Except TaskFailure Value → TaskEnd
  | .ok value => .returned value
  | .error failure => .failed failure

def Task.ofFunction (compute : TaskArgs → TaskEnd) : Task := fun args place =>
  .quiet (compute args) place

namespace TaskEnd

def panicKind : String := "Panic"

def unknownKind : String := "UnknownTaskError"

def unknownTask (entryPoint : String) : TaskFailure :=
  ⟨unknownKind, s!"no task registered as {Text.quoted entryPoint}"⟩

def report? (index : Nat) : TaskEnd → Option TaskReport
  | .returned value => some (.result index value)
  | .failed failure => some (.failed index failure)
  | .panicked text => some (.failed index ⟨panicKind, text.getD "task panicked"⟩)
  | .left _ => none

end TaskEnd

end DeviceRig
