import DeviceRig.Proofs.Call.Mailbox
import Mathlib.Logic.Relation

/-!
# Calls that interleave on one channel

Any number of callers share a channel with the worker that hands responses to
it and with whoever closes it. Each step is one operation on the table or on
one mailbox, done without interruption. Between the steps of one caller
everybody else may take any number of their own: a response may come while the
caller gives up, and the channel may close while a call is being entered.
-/
namespace DeviceRig

open Json

inductive CallEnd where
  | answered (reply : Reply)
  | timedOut
  | disconnected
  | unsent (error : CallError)

def CallEnd.outcome (settings : CallSettings) (service method : String) :
    CallEnd → Except CallError Reply
  | .answered reply => .ok reply
  | .timedOut =>
    match settings.policy with
    | .nack => .ok .nack
    | .error => .error (.timedOut service method settings.timeout)
  | .disconnected => .error .disconnected
  | .unsent error => .error error

inductive CallStage where
  | sending
  | waiting
  | expired
  | failed (error : CallError)
  | ended (how : CallEnd)

def CallStage.isInFlight : CallStage → Bool
  | .ended _ => false
  | _ => true

structure CallRecord where
  id : UInt32
  service : String
  method : String
  /-- How many frames the worker had dispatched when the call was entered. -/
  since : Nat
  stage : CallStage

/-- A channel in use: the calls in the order in which they were entered, and the frames in the order
in which the worker dispatched them. -/
structure CallSystem where
  channel : CallChannel
  calls : List CallRecord
  frames : List Frame

namespace CallSystem

def start : CallSystem := ⟨.new, [], []⟩

def advance (s : CallSystem) (n : Nat) (stage : CallStage) (channel : CallChannel) : CallSystem :=
  { s with channel, calls := s.calls.modify n fun call => { call with stage } }

/-- The steps of callers, of the worker and of whoever closes the channel. -/
inductive Step : CallSystem → CallSystem → Prop where
  | enter {s : CallSystem} {service method : String} {kwargs : Value} {id : UInt32}
      {request : List UInt8} {channel : CallChannel}
      (hBegin : s.channel.begin service method kwargs = .ok (id, request, channel)) :
      Step s { s with
        channel
        calls := s.calls ++ [⟨id, service, method, s.frames.length, .sending⟩] }
  | refuse {s : CallSystem} {service method : String} {kwargs : Value} {error : CallError}
      (hBegin : s.channel.begin service method kwargs = .error error) : Step s s
  | send {s : CallSystem} {n : Nat} {call : CallRecord} (hCall : s.calls[n]? = some call)
      (hStage : call.stage = .sending) : Step s (s.advance n .waiting s.channel)
  | failToSend {s : CallSystem} {n : Nat} {call : CallRecord} (error : CallError)
      (hCall : s.calls[n]? = some call) (hStage : call.stage = .sending) :
      Step s (s.advance n (.failed error) s.channel)
  /-- A caller whose request is not out takes its call out of the table. -/
  | leaveUnsent {s : CallSystem} {n : Nat} {call : CallRecord} {error : CallError}
      (hCall : s.calls[n]? = some call) (hStage : call.stage = .failed error) :
      Step s (s.advance n (.ended (.unsent error)) (s.channel.forget call.id))
  | receive {s : CallSystem} {n : Nat} {call : CallRecord} {reply : Reply}
      (hCall : s.calls[n]? = some call) (hStage : call.stage = .waiting)
      (hReply : s.channel.inbox call.id = some reply) :
      Step s (s.advance n (.ended (.answered reply)) (s.channel.emptyMailbox call.id))
  | wake {s : CallSystem} {n : Nat} {call : CallRecord} (hCall : s.calls[n]? = some call)
      (hStage : call.stage = .waiting) (hReply : s.channel.inbox call.id = none)
      (hPending : s.channel.isPending call.id = false) :
      Step s (s.advance n (.ended .disconnected) s.channel)
  | expire {s : CallSystem} {n : Nat} {call : CallRecord} (hCall : s.calls[n]? = some call)
      (hStage : call.stage = .waiting) (hReply : s.channel.inbox call.id = none)
      (hPending : s.channel.isPending call.id = true) :
      Step s (s.advance n .expired s.channel)
  | leaveExpired {s : CallSystem} {n : Nat} {call : CallRecord} (hCall : s.calls[n]? = some call)
      (hStage : call.stage = .expired) :
      Step s (s.advance n (.ended .timedOut) (s.channel.forget call.id))
  | dispatch {s : CallSystem} (frame : Frame) :
      Step s { s with channel := s.channel.handle frame, frames := s.frames ++ [frame] }
  | close {s : CallSystem} : Step s { s with channel := s.channel.close }

abbrev Leads : CallSystem → CallSystem → Prop := Relation.ReflTransGen Step

def Reachable (s : CallSystem) : Prop := Leads start s

theorem advance_call (s : CallSystem) (n : Nat) (stage : CallStage) (channel : CallChannel)
    (m : Nat) :
    (s.advance n stage channel).calls[m]? =
      if n = m then s.calls[m]?.map fun call => { call with stage } else s.calls[m]? := by
  rw [advance, List.getElem?_modify]
  split <;> simp

@[simp]
theorem advance_length (s : CallSystem) (n : Nat) (stage : CallStage) (channel : CallChannel) :
    (s.advance n stage channel).calls.length = s.calls.length := by
  simp [advance]

theorem Step.length_le {s t : CallSystem} (h : Step s t) : s.calls.length ≤ t.calls.length := by
  cases h <;> simp [advance]

/-- What a caller that waits until its time runs out gets is what a run of its own steps gives. -/
theorem finish_is_run (settings : CallSettings) (s : CallSystem) (n : Nat) (call : CallRecord)
    (hCall : s.calls[n]? = some call) (hStage : call.stage = .waiting) :
    ∃ how channel,
      s.channel.finish settings call.id call.service call.method =
        (how.outcome settings call.service call.method, channel) ∧
      Leads s (s.advance n (.ended how) channel) := by
  rw [CallChannel.finish_eq]
  cases hReply : s.channel.inbox call.id with
  | some reply => exact ⟨.answered reply, _, rfl, .single (.receive hCall hStage hReply)⟩
  | none =>
    cases hPending : s.channel.isPending call.id with
    | true =>
      have hExpired : (s.advance n .expired s.channel).calls[n]? =
          some { call with stage := .expired } := by
        rw [advance_call, if_pos rfl, hCall]
        rfl
      have hTwice : (s.advance n .expired s.channel).advance n (.ended .timedOut)
          (s.channel.forget call.id) =
            s.advance n (.ended .timedOut) (s.channel.forget call.id) := by
        simp [advance, List.modify_modify_eq, Function.comp_def]
      have hLeave := Step.leaveExpired hExpired rfl
      refine ⟨.timedOut, s.channel.forget call.id, rfl, ?_⟩
      exact (Relation.ReflTransGen.single (.expire hCall hStage hReply hPending)).tail
        (hTwice ▸ hLeave)
    | false => exact ⟨.disconnected, s.channel, rfl, .single (.wake hCall hStage hReply hPending)⟩

end CallSystem

end DeviceRig
