import DeviceRig.Call.Error
import DeviceRig.Json.Record

/-!
What a call brought back: whether the device accepted it and the bytes of its answer, which hold
JSON.
-/
namespace DeviceRig

structure Reply where
  ack : Bool
  payload : List UInt8
deriving DecidableEq, Repr, Inhabited

namespace Reply

open Json

def nack : Reply := ⟨false, []⟩

def decode {α : Type} (reader : Reader α) (reply : Reply) : Except CallError α :=
  match (Reader.only reader).run .whole reply.payload with
  | .ok value => .ok value
  | .error error => .error (.json error)

def echoField : RecordField (Option String) :=
  ⟨"msg", false, Option.isSome, fun _ => do
    let text ← Reader.wantedText
    return fun _ => some text⟩

def echoReader : Reader String := do
  return (← Reader.record "EchoMessage" [echoField] none maxDepth).getD ""

def echoed (reply : Reply) : Except CallError (Bool × String) :=
  if reply.ack then do
    return (true, ← reply.decode echoReader)
  else .ok (false, "")

end Reply

end DeviceRig
