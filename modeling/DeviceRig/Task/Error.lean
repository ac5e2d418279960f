import DeviceRig.Task.Failure

/-!
What can go wrong with a batch of tasks as a whole, and with a task process before its task runs.
-/
namespace DeviceRig

inductive BatchError where
  | notSpawned (index : Nat) (fault : Fault)
  | badEnvironment (text : String)
  | tasksFailed (failures : List (Nat × TaskFailure))
  | stream (fault : Fault)
  | json (error : JsonError)
deriving Repr, Inhabited

namespace BatchError

/-- Every failed task with its index; the last character is left out, which is the semicolon
behind the last failure. -/
def describeFailures (failures : List (Nat × TaskFailure)) : String :=
  let each := failures.map fun (index, failure) => s!" [{index}] {failure.display};"
  let text := "encountered errors in parallel processes:" ++ String.join each
  String.ofList text.toList.dropLast

def message : BatchError → String
  | .notSpawned index fault => s!"failed to spawn task {index}: {fault.message}"
  | .badEnvironment text => s!"invalid worker environment: {text}"
  | .tasksFailed failures => describeFailures failures
  | .stream fault => s!"I/O error: {fault.message}"
  | .json error => s!"json error: {error.message}"

end BatchError

def TaskFailure.ofBatch (error : BatchError) : TaskFailure :=
  ⟨"ExecError", error.message⟩

end DeviceRig
