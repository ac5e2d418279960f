import DeviceRig.Call.Packet

/-!
Services of a simulated device. A service is a function of the method, the keyword arguments and a
state that all services of the device share.
-/
namespace DeviceRig

open Json

inductive ServiceReply where
  | ack (payload : List UInt8)
  | nack
  | ignore
deriving DecidableEq, Repr, Inhabited

def ServiceReply.json (value : Value) : ServiceReply :=
  .ack (Utf8.bytes value.compact)

abbrev Service (State : Type) := String → Members → State → ServiceReply × State

namespace Service

def echo {State : Type} : Service State := fun method kwargs state =>
  (if method = Packet.echoMethod then .json (.object kwargs) else .nack, state)

/-- A level as a light takes it: only a whole number counts. -/
def levelOf (kwargs : Members) : Int :=
  match Members.get? kwargs "level" with
  | some (.number (.integer level)) => level
  | _ => 0

/-- A light bulb: it keeps what it is set to unless the level is above 255. -/
def lighting : Service Members := fun method kwargs state =>
  match method with
  | "Set" =>
    if 255 < levelOf kwargs then (.nack, state)
    else (.json (.object kwargs), Members.putAll state kwargs)
  | "Get" => (.json (.object state), state)
  | _ => (.nack, state)

def always {State : Type} (reply : ServiceReply) : Service State := fun _ _ state =>
  (reply, state)

def methodName {State : Type} : Service State := fun method _ state =>
  (.json (.text method), state)

def arguments {State : Type} : Service State := fun _ kwargs state =>
  (.json (.object kwargs), state)

end Service

end DeviceRig
