import DeviceRig.Call.Packet
import DeviceRig.Device.Simulator

/-!
A scripted device. It does some things at the start of every connection, and the next list of
things for each valid frame that it receives, counted across its connections; when the script has
ended, a frame makes it hang up.
-/
namespace DeviceRig

inductive ScriptAction where
  | raw (bytes : List UInt8)
  | frame (address : UInt8) (payload : List UInt8)
  /-- A response whose number differs from that of the request by so much. -/
  | reply (ack : Bool) (payload : List UInt8) (idOffset : Nat)
  | hangUp
deriving DecidableEq, Repr, Inhabited

structure DeviceScript where
  greeting : List ScriptAction
  requests : List (List ScriptAction)
  seen : List String
deriving Repr, Inhabited

/-- What a device did: the bytes it sent, and whether it hung up after them. -/
structure DeviceOutput where
  sent : List UInt8
  hungUp : Bool
deriving DecidableEq, Repr, Inhabited

namespace DeviceOutput

def silent : DeviceOutput := ⟨[], false⟩

def followedBy (output next : DeviceOutput) : DeviceOutput :=
  if output.hungUp then output else ⟨output.sent ++ next.sent, next.hungUp⟩

/-- Sends a frame; one that is too large makes the device hang up. -/
def ofFrame (address : UInt8) (payload : List UInt8) : DeviceOutput :=
  match Simulator.sendFrame address payload with
  | .ok bytes => ⟨bytes, false⟩
  | .error _ => ⟨[], true⟩

end DeviceOutput

namespace ScriptAction

def perform (callId : Nat) : ScriptAction → DeviceOutput
  | .raw bytes => ⟨bytes, false⟩
  | .frame address payload => .ofFrame address payload
  | .reply ack payload idOffset =>
    .ofFrame Frame.callAddress
      (Packet.response ((callId + idOffset) % 0x100000000) ack payload).encode
  | .hangUp => ⟨[], true⟩

def performAll (callId : Nat) (actions : List ScriptAction) : DeviceOutput :=
  actions.foldr (fun action after => (action.perform callId).followedBy after) .silent

end ScriptAction

namespace DeviceScript

def callIdOf (payload : List UInt8) : Nat :=
  match Packet.decode payload with
  | .ok packet => packet.callId
  | .error _ => 0

def answer (script : DeviceScript) : List Frame → DeviceOutput × DeviceScript
  | [] => (.silent, script)
  | frame :: rest =>
    if !frame.valid then script.answer rest
    else
      let seen := script.seen ++ [Utf8.lossy frame.payload]
      match script.requests with
      | [] => (⟨[], true⟩, { script with seen })
      | actions :: requests =>
        let output := ScriptAction.performAll (callIdOf frame.payload) actions
        let script := { script with requests, seen }
        if output.hungUp then (output, script)
        else
          let (more, script) := script.answer rest
          (output.followedBy more, script)

end DeviceScript

end DeviceRig
