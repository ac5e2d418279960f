import DeviceRig.Call.Packet
import DeviceRig.System.Duration

/-!
Settings of calls.
-/
namespace DeviceRig

/-- What becomes of a call that outlives its timeout: it fails, or it counts as declined. -/
inductive TimeoutPolicy where
  | error
  | nack
deriving DecidableEq, Repr, Inhabited

def TimeoutPolicy.name : TimeoutPolicy → String
  | .error => "Error"
  | .nack => "Nack"

structure CallSettings where
  timeout : Duration
  policy : TimeoutPolicy
  space : String
deriving DecidableEq, Repr, Inhabited

def CallSettings.usual : CallSettings :=
  ⟨.ofSeconds 1, .error, Packet.automationNamespace⟩

end DeviceRig
