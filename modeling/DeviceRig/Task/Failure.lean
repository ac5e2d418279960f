import DeviceRig.Text.Natural
import DeviceRig.Text.Utf8
import DeviceRig.Transport.Error

/-!
Failures of tasks. A failure crosses process boundaries as the name of its kind and a message; what
goes wrong inside a task is named for the part that failed.
-/
namespace DeviceRig

structure TaskFailure where
  kind : String
  message : String
deriving DecidableEq, Repr, Inhabited

namespace TaskFailure

def noResultKind : String := "NoResultReceivedError"

def noResult : TaskFailure :=
  ⟨noResultKind, "Did not receive any results from the process."⟩

def isNoResult (failure : TaskFailure) : Bool :=
  failure.kind = noResultKind

def display (failure : TaskFailure) : String :=
  s!"{failure.kind}: {failure.message}"

def ofFault (fault : Fault) : TaskFailure :=
  ⟨"Error", fault.message⟩

def ofJson (error : JsonError) : TaskFailure :=
  ⟨"Error", error.message⟩

def ofFrame (error : FrameError) : TaskFailure :=
  ⟨"FrameError", error.message⟩

def ofLink (error : LinkError) : TaskFailure :=
  ⟨"LinkError", error.message⟩

def ofCall (error : CallError) : TaskFailure :=
  ⟨"RpcError", error.message⟩

def ofWorker (error : WorkerError) : TaskFailure :=
  ⟨"WorkerError", error.message⟩

def ofTransport (error : TransportError) : TaskFailure :=
  ⟨"TransportError", error.message⟩

def ofNumberFlaw (flaw : Text.NumberFlaw) : TaskFailure :=
  ⟨"ParseIntError", flaw.message⟩

def ofDefect (defect : Utf8.Defect) : TaskFailure :=
  ⟨"FromUtf8Error", defect.message⟩

end TaskFailure

end DeviceRig
