import DeviceRig.Call.Error

/-!
What can go wrong with the worker that reads a link, and with a transport as a whole.
-/
namespace DeviceRig

inductive WorkerError where
  | notSpawned (fault : Fault)
  | joinTimedOut (timeout : Duration)
  | panicked
deriving DecidableEq, Repr, Inhabited

def WorkerError.message : WorkerError → String
  | .notSpawned fault => s!"failed to spawn link worker: {fault.message}"
  | .joinTimedOut timeout => s!"link worker failed to join after {timeout.describe}"
  | .panicked => "link worker panicked"

inductive TransportError where
  | linkUnavailable (error : LinkError)
  | link (error : LinkError)
  | worker (error : WorkerError)
  | call (error : CallError)
  | alreadyOpen
  | notOpen
  | notClosed (worker : Option WorkerError) (link : Option LinkError)
deriving Repr, Inhabited

namespace TransportError

def describeStep (step : String) : Option String → String
  | none => ""
  | some message => s!"; {step}: {message}"

def message : TransportError → String
  | .linkUnavailable error => s!"link unavailable: {error.message}"
  | .link error => s!"link error: {error.message}"
  | .worker error => s!"worker error: {error.message}"
  | .call error => s!"rpc error: {error.message}"
  | .alreadyOpen => "transport is already open"
  | .notOpen => "transport is not open"
  | .notClosed stopping releasing =>
    "transport close failed" ++ describeStep "stopping worker" (stopping.map WorkerError.message)
      ++ describeStep "releasing link" (releasing.map LinkError.message)

end TransportError

end DeviceRig
