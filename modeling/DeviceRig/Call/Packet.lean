import DeviceRig.Json.Printer
import DeviceRig.Json.Tagged

/-!
Packets of calls: a request names a service and a method and carries keyword arguments; a response
carries whether the device accepted the call and the bytes of its answer. Both carry the number of
the call. A packet is written as compact JSON with its kind in the member `type`.
-/
namespace DeviceRig

inductive Packet where
  | request (callId : Nat) (service method : String) (kwargs : Json.Members)
  | response (callId : Nat) (ack : Bool) (payload : List UInt8)
deriving BEq, Repr, Inhabited

namespace Packet

open Json

def automationNamespace : String := "chip.rpc"

def diagnosticNamespace : String := "pw.rpc"

def echoService : String := "EchoService"

def echoMethod : String := "Echo"

def qualifiedService (space service : String) : String :=
  if space.isEmpty then service else s!"{space}.{service}"

def callId : Packet → Nat
  | .request callId .. | .response callId .. => callId

def bytesValue (bytes : List UInt8) : Value :=
  .list (bytes.map fun byte => .integer byte.toNat)

def toValue : Packet → Value
  | .request callId service method kwargs =>
    .object [("type", .text "request"), ("call_id", .integer callId), ("service", .text service),
      ("method", .text method), ("kwargs", .object kwargs)]
  | .response callId ack payload =>
    .object [("type", .text "response"), ("call_id", .integer callId), ("ack", .bool ack),
      ("payload", bytesValue payload)]

def encodeText (packet : Packet) : String :=
  packet.toValue.compact

def encode (packet : Packet) : List UInt8 :=
  Utf8.bytes packet.encodeText

structure Draft where
  callId : Option Nat
  service : Option String
  method : Option String
  kwargs : Option Members
  ack : Option Bool
  payload : Option (List UInt8)

def Draft.blank : Draft := ⟨none, none, none, none, none, none⟩

def bytes : Conversion (List UInt8) :=
  Conversion.list fun value => Nat.toUInt8 <$> Conversion.natural .byte value

def callIdField : VariantField Draft :=
  ⟨"call_id", false, fun draft => draft.callId.isSome, fun value draft => do
    return { draft with callId := some (← Conversion.natural .word value) }⟩

def serviceField : VariantField Draft :=
  ⟨"service", false, fun draft => draft.service.isSome, fun value draft => do
    return { draft with service := some (← Conversion.text value) }⟩

def methodField : VariantField Draft :=
  ⟨"method", false, fun draft => draft.method.isSome, fun value draft => do
    return { draft with method := some (← Conversion.text value) }⟩

def kwargsField : VariantField Draft :=
  ⟨"kwargs", true, fun draft => draft.kwargs.isSome, fun value draft => do
    return { draft with kwargs := some (← Conversion.members value) }⟩

def ackField : VariantField Draft :=
  ⟨"ack", false, fun draft => draft.ack.isSome, fun value draft => do
    return { draft with ack := some (← Conversion.bool value) }⟩

def payloadField : VariantField Draft :=
  ⟨"payload", true, fun draft => draft.payload.isSome, fun value draft => do
    return { draft with payload := some (← bytes value) }⟩

def kinds : List String := ["request", "response"]

def ofContent (kind : String) (content : Content) : Except Mismatch Packet :=
  if kind = "request" then do
    let draft ← content.fill "RpcPacket::Request"
      [callIdField, serviceField, methodField, kwargsField] .blank
    return .request (draft.callId.getD 0) (draft.service.getD "") (draft.method.getD "")
      (draft.kwargs.getD [])
  else do
    let draft ← content.fill "RpcPacket::Response" [callIdField, ackField, payloadField] .blank
    return .response (draft.callId.getD 0) (draft.ack.getD false) (draft.payload.getD [])

def reader : Reader Packet := do
  let (kind, content) ← Reader.tagged "RpcPacket" kinds
  Reader.accept (ofContent kind content)

def decode (bytes : List UInt8) : Except JsonError Packet :=
  (Reader.only reader).run .whole bytes

end Packet

end DeviceRig
