import DeviceRig.Proofs.Call.Consistency
import DeviceRig.Proofs.Call.PacketCodec
import Mathlib.Logic.ExistsUnique

/-!
# Replies belong to their calls

What a caller comes back with, in any interleaving: a reply is that of the
first response to its own call that was dispatched after the call was entered,
and once the channel is closed a call that has no reply gets none any more.
-/
namespace DeviceRig

theorem Frame.decode_of_response? {frame : Frame} {id : UInt32} {reply : Reply}
    (h : frame.response? = some (id, reply)) :
    Packet.decode frame.payload = .ok (.response id.toNat reply.ack reply.payload) := by
  unfold Frame.response? at h
  split at h
  · rename_i callId ack payload hDecode
    cases h
    have hBound : callId < 2 ^ 32 := Packet.callId_lt_of_decode hDecode
    rw [hDecode, UInt32.toNat_ofNat', Nat.mod_eq_of_lt hBound]
  · cases h

theorem Frame.response?_of_decode {frame : Frame} {id : UInt32} {reply : Reply}
    (h : Packet.decode frame.payload = .ok (.response id.toNat reply.ack reply.payload)) :
    frame.response? = some (id, reply) := by
  simp only [Frame.response?, h, UInt32.ofNat_toNat]

namespace CallSystem

/-- The frame at a place in the order of dispatch came after the call was entered and carries a
response to it. -/
def Responds (s : CallSystem) (place : Nat) (call : CallRecord) (reply : Reply) : Prop :=
  call.since ≤ place ∧ ∃ frame, s.frames[place]? = some frame ∧
    Packet.decode frame.payload = .ok (.response call.id.toNat reply.ack reply.payload)

def Answers (s : CallSystem) (place : Nat) (call : CallRecord) (reply : Reply) : Prop :=
  s.Responds place call reply ∧ ∀ earlier < place, ∀ other, ¬s.Responds earlier call other

theorem Answers.unique {s : CallSystem} {call : CallRecord} {reply other : Reply} {k j : Nat}
    (hk : s.Answers k call reply) (hj : s.Answers j call other) : k = j := by
  rcases Nat.lt_trichotomy k j with hLess | hEq | hMore
  · exact absurd hk.1 (hj.2 k hLess reply)
  · exact hEq
  · exact absurd hj.1 (hk.2 j hMore other)

theorem replyTo_eq_some {id : UInt32} {frame : Frame} {reply : Reply} :
    replyTo id frame = some reply ↔
      Packet.decode frame.payload = .ok (.response id.toNat reply.ack reply.payload) := by
  constructor
  · intro h
    unfold replyTo at h
    split at h
    · rename_i other found hResponse
      split at h
      · rename_i hSame
        cases h
        exact hSame ▸ Frame.decode_of_response? hResponse
      · cases h
    · cases h
  · intro h
    rw [replyTo, Frame.response?_of_decode h]
    exact if_pos rfl

/-- The first response of the list of responses stands somewhere, and none before it. -/
theorem exists_answers {s : CallSystem} {call : CallRecord} {reply : Reply}
    (h : (s.responsesTo call).head? = some reply) : ∃ k, s.Answers k call reply := by
  rw [responsesTo, List.head?_filterMap, List.findSome?_eq_some_iff] at h
  obtain ⟨before, frame, behind, hFrames, hReply, hBefore⟩ := h
  have hAt : ∀ k, s.frames[call.since + k]? = (before ++ frame :: behind)[k]? := by
    intro k
    rw [← hFrames, List.getElem?_drop]
  refine ⟨call.since + before.length, ⟨Nat.le_add_right _ _, frame, ?_, ?_⟩, ?_⟩
  · rw [hAt, List.getElem?_append_right (Nat.le_refl _), Nat.sub_self]
    rfl
  · exact replyTo_eq_some.mp hReply
  · rintro earlier hEarlier other ⟨hSince, found, hFound, hDecode⟩
    obtain ⟨k, rfl⟩ := Nat.exists_eq_add_of_le hSince
    have hk : k < before.length := by omega
    rw [hAt, List.getElem?_append_left hk] at hFound
    have hNone := hBefore found (List.mem_of_getElem? hFound)
    rw [replyTo_eq_some.mpr hDecode] at hNone
    cases hNone

theorem Responds.same_call {s : CallSystem} (hConsistent : s.Consistent)
    (hLength : s.calls.length ≤ 2 ^ 32) {m n k : Nat} {call other : CallRecord}
    {reply found : Reply} (hCall : s.calls[n]? = some call) (hOther : s.calls[m]? = some other)
    (hReply : s.Responds k call reply) (hFound : s.Responds k other found) : m = n := by
  obtain ⟨-, frame, hFrame, hDecode⟩ := hReply
  obtain ⟨-, same, hSame, hDecoded⟩ := hFound
  rw [hFrame] at hSame
  cases hSame
  rw [hDecode] at hDecoded
  simp only [Except.ok.injEq, Packet.response.injEq] at hDecoded
  by_cases hSamePlace : m = n
  · exact hSamePlace
  · exact absurd (UInt32.toNat_inj.mp hDecoded.1.symm)
      (hConsistent.id_ne hLength hCall hOther hSamePlace)

def Shut (s : CallSystem) : Prop :=
  s.channel.table.closed = true ∧ s.channel.table.pending = []

theorem Shut.isPending {s : CallSystem} (h : s.Shut) (id : UInt32) :
    s.channel.isPending id = false := by
  rw [CallChannel.isPending, h.2]
  rfl

theorem Shut.step {s t : CallSystem} (h : s.Shut) (hStep : Step s t) : t.Shut := by
  have hForget : ∀ id, (s.channel.forget id).table.pending = [] := by
    intro id
    rw [CallChannel.forget, CallTable.forget, h.2]
    rfl
  cases hStep with
  | enter hBegin =>
    have hOpen := CallChannel.closed_of_begin hBegin
    rw [h.1] at hOpen
    cases hOpen
  | leaveUnsent => exact ⟨h.1, hForget _⟩
  | leaveExpired => exact ⟨h.1, hForget _⟩
  | dispatch frame =>
    rw [CallChannel.handle_eq]
    cases frame.response? with
    | none => exact h
    | some response => exact ⟨h.1, by simp [CallChannel.resolve, CallTable.resolve, h.2]⟩
  | close => exact ⟨rfl, rfl⟩
  | _ => exact h

theorem Shut.leads {s t : CallSystem} (h : s.Shut) (hLeads : Leads s t) : t.Shut := by
  induction hLeads with
  | refl => exact h
  | tail _ hStep ih => exact ih.step hStep

/-- How a caller goes on whose call is not in the table and has no reply. -/
inductive GoesOnAlone : CallStage → CallStage → Prop where
  | send : GoesOnAlone .sending .waiting
  | failToSend (error : CallError) : GoesOnAlone .sending (.failed error)
  | leaveUnsent (error : CallError) : GoesOnAlone (.failed error) (.ended (.unsent error))
  | wake : GoesOnAlone .waiting (.ended .disconnected)
  | leaveExpired : GoesOnAlone .expired (.ended .timedOut)

/-- How a call may end that is at a stage of its own when it goes on alone. -/
def EndsAlone (stage : CallStage) (how : CallEnd) : Prop :=
  how = .disconnected ∨ (how = .timedOut ∧ stage = .expired) ∨
    ∃ error, how = .unsent error ∧ (stage = .sending ∨ stage = .failed error)

theorem endsAlone_of_goesOn {stage : CallStage} {how : CallEnd}
    (h : Relation.ReflTransGen GoesOnAlone stage (.ended how))
    (hInFlight : stage.isInFlight = true) : EndsAlone stage how := by
  rcases Relation.ReflTransGen.cases_tail h with hSame | ⟨last, hBefore, hLast⟩
  · rw [← hSame] at hInFlight
    cases hInFlight
  · cases hLast with
    | wake => exact .inl rfl
    | leaveExpired =>
      rcases Relation.ReflTransGen.cases_tail hBefore with hSame | ⟨_, -, hNone⟩
      · exact .inr (.inl ⟨rfl, hSame.symm⟩)
      · cases hNone
    | leaveUnsent error =>
      refine .inr (.inr ⟨error, rfl, ?_⟩)
      rcases Relation.ReflTransGen.cases_tail hBefore with hSame | ⟨first, hFirst, hFailed⟩
      · exact .inr hSame.symm
      · cases hFailed
        rcases Relation.ReflTransGen.cases_tail hFirst with hSame | ⟨_, -, hNone⟩
        · exact .inl hSame.symm
        · cases hNone

/-- The channel is closed and there is nothing in the mailbox of a call, which has come this far
from the stage that it was at. -/
structure CutOff (s : CallSystem) (n : Nat) (id : UInt32) (before : CallStage) : Prop where
  shut : s.Shut
  inbox : s.channel.inbox id = none
  goneOn : ∃ call, s.calls[n]? = some call ∧ call.id = id ∧
    Relation.ReflTransGen GoesOnAlone before call.stage

theorem CutOff.advance {s : CallSystem} {n m : Nat} {id : UInt32} {before stage : CallStage}
    (h : s.CutOff n id before) {call : CallRecord} (hCall : s.calls[m]? = some call)
    {channel : CallChannel} (hShut : (s.advance m stage channel).Shut)
    (hInbox : channel.inbox id = none) (hStage : call.id = id → GoesOnAlone call.stage stage) :
    (s.advance m stage channel).CutOff n id before := by
  obtain ⟨own, hOwn, hId, hGone⟩ := h.goneOn
  refine ⟨hShut, hInbox, ?_⟩
  rw [advance_call]
  by_cases hSame : m = n
  · subst hSame
    rw [hCall] at hOwn
    cases hOwn
    rw [if_pos rfl, hCall]
    exact ⟨_, rfl, hId, hGone.tail (hStage hId)⟩
  · rw [if_neg hSame]
    exact ⟨own, hOwn, hId, hGone⟩

theorem CutOff.step {s t : CallSystem} {n : Nat} {id : UInt32} {before : CallStage}
    (h : s.CutOff n id before) (hStep : Step s t) : t.CutOff n id before := by
  have hShut := h.shut.step hStep
  cases hStep with
  | enter hBegin =>
    have hOpen := CallChannel.closed_of_begin hBegin
    rw [h.shut.1] at hOpen
    cases hOpen
  | refuse => exact h
  | send hCall hStage => exact h.advance hCall hShut h.inbox fun _ => hStage ▸ .send
  | failToSend error hCall hStage =>
    exact h.advance hCall hShut h.inbox fun _ => hStage ▸ .failToSend error
  | leaveUnsent hCall hStage =>
    exact h.advance hCall hShut h.inbox fun _ => hStage ▸ .leaveUnsent _
  | receive hCall hStage hReply =>
    refine h.advance hCall hShut ?_ fun hId => ?_
    · simp [h.inbox]
    · rw [hId, h.inbox] at hReply
      cases hReply
  | wake hCall hStage => exact h.advance hCall hShut h.inbox fun _ => hStage ▸ .wake
  | expire hCall hStage hReply hPending =>
    rw [h.shut.isPending] at hPending
    cases hPending
  | leaveExpired hCall hStage =>
    exact h.advance hCall hShut h.inbox fun _ => hStage ▸ .leaveExpired
  | dispatch frame =>
    refine ⟨hShut, ?_, h.goneOn⟩
    rw [CallChannel.handle_eq]
    cases frame.response? with
    | none => exact h.inbox
    | some response => simp [h.shut.isPending, h.inbox]
  | close => exact ⟨hShut, h.inbox, h.goneOn⟩

theorem CutOff.leads {s t : CallSystem} {n : Nat} {id : UInt32} {before : CallStage}
    (h : s.CutOff n id before) (hLeads : Leads s t) : t.CutOff n id before := by
  induction hLeads with
  | refl => exact h
  | tail _ hStep ih => exact ih.step hStep

/-- After closing, a call without a reply comes back without one, and a caller that waits for it is
woken. -/
theorem Shut.call_comes_back {s t : CallSystem} (h : s.Shut) (hLeads : Leads s t) {n : Nat}
    {call : CallRecord} (hCall : s.calls[n]? = some call) (hInFlight : call.stage.isInFlight = true)
    (hInbox : s.channel.inbox call.id = none) :
    ∃ later, t.calls[n]? = some later ∧ later.id = call.id ∧
      (∀ how, later.stage = .ended how → EndsAlone call.stage how) ∧
      (later.stage = .waiting → Step t (t.advance n (.ended .disconnected) t.channel)) := by
  have hCut : s.CutOff n call.id call.stage := ⟨h, hInbox, call, hCall, rfl, .refl⟩
  obtain ⟨hShut, hEmpty, later, hLater, hId, hGone⟩ := hCut.leads hLeads
  refine ⟨later, hLater, hId, fun how hHow => ?_, fun hWaiting => ?_⟩
  · rw [hHow] at hGone
    exact endsAlone_of_goesOn hGone hInFlight
  · rw [← hId] at hEmpty
    exact .wake hLater hWaiting hEmpty (hShut.isPending later.id)

theorem Reachable.consistent {s : CallSystem} (h : s.Reachable)
    (hLength : s.calls.length < 2 ^ 32) : s.Consistent :=
  consistent_start.leads h (Nat.le_of_lt hLength)

theorem Consistent.ids_nodup {s : CallSystem} (h : s.Consistent)
    (hLength : s.calls.length ≤ 2 ^ 32) : (s.calls.map CallRecord.id).Nodup := by
  rw [List.Nodup, List.pairwise_map, List.pairwise_iff_getElem]
  intro m n hm hn hLess hSame
  exact h.id_ne hLength (List.getElem?_eq_getElem hn) (List.getElem?_eq_getElem hm)
    (Nat.ne_of_lt hLess) hSame

/-- A caller that comes back with a reply has that of the first response to its call, unless its
time ran out and a refusal was made up for it. -/
theorem Consistent.reply_of_outcome {s : CallSystem} (h : s.Consistent) {n : Nat}
    {call : CallRecord} (hCall : s.calls[n]? = some call) {how : CallEnd}
    (hStage : call.stage = .ended how) {settings : CallSettings} {reply : Reply}
    (hOutcome : how.outcome settings call.service call.method = .ok reply) :
    how = .timedOut ∧ settings.policy = .nack ∧ reply = .nack ∨
      ∃! k, s.Answers k call reply := by
  cases how with
  | answered found =>
    cases hOutcome
    have hStands := h.stands n call hCall
    rw [Stands, hStage] at hStands
    obtain ⟨k, hk⟩ := exists_answers hStands.head?_of_answered
    exact .inr ⟨k, hk, fun j hj => hj.unique hk⟩
  | timedOut =>
    cases hPolicy : settings.policy with
    | nack =>
      simp only [CallEnd.outcome, hPolicy] at hOutcome
      cases hOutcome
      exact .inl ⟨rfl, rfl, rfl⟩
    | error =>
      simp only [CallEnd.outcome, hPolicy] at hOutcome
      cases hOutcome
  | disconnected => cases hOutcome
  | unsent error => cases hOutcome

/-- In any interleaving with fewer calls than numbers, calls have numbers of their own, replies are
those of the responses to them, each used once, and closing cuts off every call without a reply. A
caller that is left alone until its time runs out gets what some of these steps give. -/
theorem Reachable.replies_correlated {s : CallSystem} (hReachable : s.Reachable)
    (hLength : s.calls.length < 2 ^ 32) :
    (s.calls.map CallRecord.id).Nodup ∧
    (∀ (n : Nat) (call : CallRecord) (how : CallEnd) (settings : CallSettings) (reply : Reply),
      s.calls[n]? = some call → call.stage = .ended how →
      how.outcome settings call.service call.method = .ok reply →
      how = .timedOut ∧ settings.policy = .nack ∧ reply = .nack ∨
        ∃! k, s.Answers k call reply) ∧
    (∀ (m n k : Nat) (call other : CallRecord) (reply found : Reply),
      s.calls[n]? = some call → s.calls[m]? = some other →
      s.Answers k call reply → s.Answers k other found → m = n) ∧
    (s.channel.table.closed = true →
      s.channel.table.pending = [] ∧
      ∀ t, Leads s t →
        t.channel.table.closed = true ∧ t.channel.table.pending = [] ∧
        (∀ service method kwargs members, callArguments kwargs = .ok members →
          t.channel.begin service method kwargs = .error .disconnected) ∧
        ∀ (n : Nat) (call : CallRecord), s.calls[n]? = some call →
          call.stage.isInFlight = true →
          s.channel.inbox call.id = none →
          ∃ later, t.calls[n]? = some later ∧ later.id = call.id ∧
            (∀ how, later.stage = .ended how → EndsAlone call.stage how) ∧
            (later.stage = .waiting → Step t (t.advance n (.ended .disconnected) t.channel))) ∧
    ∀ (settings : CallSettings) (n : Nat) (call : CallRecord), s.calls[n]? = some call →
      call.stage = .waiting → ∃ how channel,
        s.channel.finish settings call.id call.service call.method =
          (how.outcome settings call.service call.method, channel) ∧
        Leads s (s.advance n (.ended how) channel) := by
  have hConsistent := hReachable.consistent hLength
  have hBound := Nat.le_of_lt hLength
  refine ⟨hConsistent.ids_nodup hBound, ?_, ?_, fun hClosed => ?_,
    fun settings n call => finish_is_run settings s n call⟩
  · intro n call how settings reply hCall hStage hOutcome
    exact hConsistent.reply_of_outcome hCall hStage hOutcome
  · intro m n call other k reply found hCall hOther hReply hFound
    exact hReply.1.same_call hConsistent hBound hCall hOther hFound.1
  · have hEmpty := hConsistent.sound.closed hClosed
    refine ⟨hEmpty, fun t hLeads => ?_⟩
    have hShut : s.Shut := ⟨hClosed, hEmpty⟩
    obtain ⟨hShutClosed, hShutEmpty⟩ := hShut.leads hLeads
    refine ⟨hShutClosed, hShutEmpty, CallChannel.begin_closed hShutClosed, ?_⟩
    intro n call hCall hInFlight hInbox
    exact hShut.call_comes_back hLeads hCall hInFlight hInbox

theorem replies_correlated_answered :
    ∃ s : CallSystem, s.Reachable ∧ s.calls.length < 2 ^ 32 ∧
      ∃ first second, s.calls = [first, second] ∧ first.stage = .ended (.answered ⟨true, [7]⟩) ∧
        (∃! k, s.Answers k first ⟨true, [7]⟩) ∧ second.stage = .waiting ∧
        ∀ t, Leads s t → t.channel.table.pending = [] := by
  let frame : Frame := ⟨Frame.callAddress, Packet.encode (.response 0 true [7]), true⟩
  have hResponse : frame.response? = some (0, ⟨true, [7]⟩) :=
    Frame.response?_of_decode (Packet.decode_encode_response true [7] (by decide))
  let call (id : UInt32) (stage : CallStage) : CallRecord :=
    ⟨id, "pw.rpc.EchoService", "Echo", 0, stage⟩
  have hFirst : Step start ⟨CallChannel.new.enter, [call 0 .sending], []⟩ :=
    .enter (show CallChannel.new.begin "pw.rpc.EchoService" "Echo" .null = .ok _ from rfl)
  have hSecond : Step ⟨CallChannel.new.enter, [call 0 .sending], []⟩
      ⟨CallChannel.new.enter.enter, [call 0 .sending, call 1 .sending], []⟩ :=
    .enter (show CallChannel.new.enter.begin "pw.rpc.EchoService" "Echo" .null = .ok _ from rfl)
  have hFirstSent : Step ⟨CallChannel.new.enter.enter, [call 0 .sending, call 1 .sending], []⟩
      ⟨CallChannel.new.enter.enter, [call 0 .waiting, call 1 .sending], []⟩ :=
    .send (n := 0) rfl rfl
  have hSecondSent : Step ⟨CallChannel.new.enter.enter, [call 0 .waiting, call 1 .sending], []⟩
      ⟨CallChannel.new.enter.enter, [call 0 .waiting, call 1 .waiting], []⟩ :=
    .send (n := 1) rfl rfl
  have hDispatched : Step ⟨CallChannel.new.enter.enter, [call 0 .waiting, call 1 .waiting], []⟩
      ⟨⟨⟨[1], 2, false⟩, [(0, ⟨true, [7]⟩)]⟩, [call 0 .waiting, call 1 .waiting], [frame]⟩ := by
    have hHandle : CallChannel.new.enter.enter.handle frame =
        ⟨⟨[1], 2, false⟩, [(0, ⟨true, [7]⟩)]⟩ := by
      rw [CallChannel.handle_eq, hResponse]
      rfl
    rw [← hHandle]
    exact .dispatch frame
  have hReceived := @Step.receive
    ⟨⟨⟨[1], 2, false⟩, [(0, ⟨true, [7]⟩)]⟩, [call 0 .waiting, call 1 .waiting], [frame]⟩ 0
    (call 0 .waiting) ⟨true, [7]⟩ rfl rfl rfl
  have hReachable : Reachable _ :=
    (((((Relation.ReflTransGen.single hFirst).tail hSecond).tail hFirstSent).tail
      hSecondSent).tail hDispatched).tail hReceived |>.tail .close
  have hCorrelated := hReachable.replies_correlated (by decide)
  refine ⟨_, hReachable, by decide, _, _, rfl, rfl, ?_, rfl, fun t hLeads => ?_⟩
  · have hAnswered := hCorrelated.2.1 0 _ (.answered ⟨true, [7]⟩) .usual ⟨true, [7]⟩ rfl rfl rfl
    rcases hAnswered with ⟨hNot, -⟩ | hAnswers
    · cases hNot
    · exact hAnswers
  · exact ((hCorrelated.2.2.2.1 rfl).2 t hLeads).2.1

end CallSystem

end DeviceRig
