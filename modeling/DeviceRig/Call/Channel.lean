import DeviceRig.Call.Packet
import DeviceRig.Call.Reply
import DeviceRig.Call.Settings
import DeviceRig.Call.Table
import DeviceRig.Frame.Basic

/-!
The channel of calls over one link. A call enters the table, its request goes out, and the response
with its number is put into its mailbox. A closed table wakes every caller without a reply.
-/
namespace DeviceRig

open Json

structure CallChannel where
  table : CallTable
  mailboxes : List (UInt32 × Reply)
deriving DecidableEq, Repr, Inhabited

def callArguments : Value → Except CallError Members
  | .object members => .ok members
  | .null => .ok []
  | .bool _ => .error (.invalidArguments .boolean)
  | .number _ => .error (.invalidArguments .number)
  | .text _ => .error (.invalidArguments .text)
  | .list _ => .error (.invalidArguments .list)

namespace CallChannel

def new : CallChannel := ⟨.new, []⟩

/-- Hands a reply to the call of its number if that call is in flight. -/
def resolve (channel : CallChannel) (id : UInt32) (reply : Reply) : CallChannel :=
  let (found, table) := channel.table.resolve id
  ⟨table, if found then channel.mailboxes ++ [(id, reply)] else channel.mailboxes⟩

/-- What a frame on the call channel does: a response resolves its call, and everything else is
ignored. -/
def handle (channel : CallChannel) (frame : Frame) : CallChannel :=
  match Packet.decode frame.payload with
  | .ok (.response callId ack payload) => channel.resolve (UInt32.ofNat callId) ⟨ack, payload⟩
  | .ok (.request ..) | .error _ => channel

def close (channel : CallChannel) : CallChannel :=
  { channel with table := channel.table.close }

def begin (channel : CallChannel) (service method : String) (kwargs : Value) :
    Except CallError (UInt32 × List UInt8 × CallChannel) := do
  let members ← callArguments kwargs
  match channel.table.register with
  | none => throw .disconnected
  | some (id, table) =>
    let request := Packet.request id.toNat service method members
    return (id, request.encode, { channel with table })

def forget (channel : CallChannel) (id : UInt32) : CallChannel :=
  { channel with table := channel.table.forget id }

/-- What a caller gets that has waited for its reply until its timeout. -/
def finish (channel : CallChannel) (settings : CallSettings) (id : UInt32)
    (service method : String) : Except CallError Reply × CallChannel :=
  match channel.mailboxes.lookup id with
  | some reply =>
    (.ok reply, { channel with mailboxes := channel.mailboxes.filter fun entry => entry.1 ≠ id })
  | none =>
    if channel.table.pending.contains id then
      let outcome := match settings.policy with
        | .nack => Except.ok Reply.nack
        | .error => .error (.timedOut service method settings.timeout)
      (outcome, channel.forget id)
    else (.error .disconnected, channel)

end CallChannel

end DeviceRig
