import DeviceRig.Proofs.Call.Interleaving
import Mathlib.Algebra.Group.Nat.Defs

/-!
# How calls stand along a run

A call stands in one of a few ways to its table and its mailbox, and every
step of an interleaved run keeps it in one of them. While fewer calls were
entered than there are numbers, every number belongs to one call, so a reply
that a caller finds is the first response to its own call that was dispatched
after it had entered.
-/
namespace DeviceRig

/-- How a call may stand: whether the channel is closed, whether the call is in the table, what is
in its mailbox, the responses to it that were dispatched since it was entered, and where its caller
is. -/
inductive Standing (closed : Bool) : Bool → Option Reply → List Reply → CallStage → Prop where
  | open {stage : CallStage} (hStage : stage.isInFlight = true) :
      Standing closed true none [] stage
  /-- The first response is in the mailbox. The caller may have given up all the same. -/
  | delivered {reply : Reply} {more : List Reply} {stage : CallStage}
      (hStage : stage.isInFlight = true ∨ stage = .ended .timedOut ∨
        ∃ error, stage = .ended (.unsent error)) :
      Standing closed false (some reply) (reply :: more) stage
  | taken {reply : Reply} {more : List Reply} :
      Standing closed false none (reply :: more) (.ended (.answered reply))
  | left {replies : List Reply} {stage : CallStage}
      (hStage : stage = .ended .timedOut ∨ ∃ error, stage = .ended (.unsent error)) :
      Standing closed false none replies stage
  | cut {replies : List Reply} {stage : CallStage} (hClosed : closed = true)
      (hStage : stage.isInFlight = true ∨ stage = .ended .disconnected) :
      Standing closed false none replies stage

namespace Standing

variable {closed pending : Bool} {inbox : Option Reply} {replies : List Reply} {stage : CallStage}

theorem later (h : Standing closed false inbox replies stage) (reply : Reply) :
    Standing closed false inbox (replies ++ [reply]) stage := by
  cases h with
  | delivered hStage => exact .delivered hStage
  | taken => exact .taken
  | left hStage => exact .left hStage
  | cut hClosed hStage => exact .cut hClosed hStage

theorem resolve (h : Standing closed true inbox replies stage) (reply : Reply) :
    Standing closed false (inbox.or (some reply)) (replies ++ [reply]) stage := by
  cases h with
  | «open» hStage => exact .delivered (.inl hStage)

theorem close (h : Standing closed pending inbox replies stage) :
    Standing true false inbox replies stage := by
  cases h with
  | «open» hStage => exact .cut rfl (.inl hStage)
  | delivered hStage => exact .delivered hStage
  | taken => exact .taken
  | left hStage => exact .left hStage
  | cut hClosed hStage => exact .cut rfl hStage

theorem goOn (h : Standing closed pending inbox replies stage) {next : CallStage}
    (hStage : stage.isInFlight = true) (hNext : next.isInFlight = true) :
    Standing closed pending inbox replies next := by
  cases h with
  | «open» => exact .open hNext
  | delivered => exact .delivered (.inl hNext)
  | taken => cases hStage
  | left hLeft => rcases hLeft with rfl | ⟨error, rfl⟩ <;> cases hStage
  | cut hClosed => exact .cut hClosed (.inl hNext)

theorem giveUp (h : Standing closed pending inbox replies stage) {next : CallStage}
    (hStage : stage.isInFlight = true)
    (hNext : next = .ended .timedOut ∨ ∃ error, next = .ended (.unsent error)) :
    Standing closed false inbox replies next := by
  cases h with
  | «open» => exact .left hNext
  | delivered => exact .delivered (.inr hNext)
  | taken => cases hStage
  | left hLeft => exact .left hNext
  | cut hClosed => exact .left hNext

theorem take {reply : Reply} (h : Standing closed pending (some reply) replies stage) :
    Standing closed pending none replies (.ended (.answered reply)) := by
  cases h with
  | delivered hStage => exact .taken

theorem wake (h : Standing closed false none replies stage) (hStage : stage.isInFlight = true) :
    Standing closed false none replies (.ended .disconnected) := by
  cases h with
  | taken => cases hStage
  | left hLeft => rcases hLeft with rfl | ⟨error, rfl⟩ <;> cases hStage
  | cut hClosed => exact .cut hClosed (.inr rfl)

theorem head?_of_answered {reply : Reply}
    (h : Standing closed pending inbox replies (.ended (.answered reply))) :
    replies.head? = some reply := by
  cases h with
  | «open» hStage => cases hStage
  | delivered hStage => simp [CallStage.isInFlight] at hStage
  | taken => rfl
  | left hStage => simp at hStage
  | cut _ hStage => simp [CallStage.isInFlight] at hStage

end Standing

namespace CallSystem

def replyTo (id : UInt32) (frame : Frame) : Option Reply :=
  match frame.response? with
  | some (other, reply) => if other = id then some reply else none
  | none => none

/-- The responses to a call that were dispatched since it was entered. -/
def responsesTo (s : CallSystem) (call : CallRecord) : List Reply :=
  (s.frames.drop call.since).filterMap (replyTo call.id)

def Stands (s : CallSystem) (call : CallRecord) : Prop :=
  Standing s.channel.table.closed (s.channel.isPending call.id) (s.channel.inbox call.id)
    (s.responsesTo call) call.stage

/-- A call of the next state is one of the state before, at another stage if it is the one that went
on. -/
theorem advance_cases {s : CallSystem} {n m : Nat} {stage : CallStage} {channel : CallChannel}
    {call : CallRecord} (hCall : (s.advance n stage channel).calls[m]? = some call) :
    ∃ old, s.calls[m]? = some old ∧ call.id = old.id ∧ call.since = old.since ∧
      (m = n ∧ call.stage = stage ∨ m ≠ n ∧ call.stage = old.stage) := by
  rw [advance_call] at hCall
  split at hCall
  · rename_i hSame
    obtain ⟨old, hOld, rfl⟩ := Option.map_eq_some_iff.mp hCall
    exact ⟨old, hOld, rfl, rfl, .inl ⟨hSame.symm, rfl⟩⟩
  · rename_i hNe
    exact ⟨call, hCall, rfl, rfl, .inr ⟨fun h => hNe h.symm, rfl⟩⟩

theorem enter_cases {calls : List CallRecord} {n : Nat} {entered call : CallRecord}
    (hCall : (calls ++ [entered])[n]? = some call) :
    calls[n]? = some call ∨ n = calls.length ∧ call = entered := by
  rw [List.getElem?_append] at hCall
  split at hCall
  · exact .inl hCall
  · rename_i hn
    obtain ⟨hZero, hEq⟩ := List.getElem?_eq_some_iff.mp hCall
    rw [List.length_singleton] at hZero
    refine .inr ⟨by omega, ?_⟩
    rw [← hEq, List.getElem_singleton]

/-- What holds along a run: numbers count the calls, nothing is known of numbers without a call, and
every call stands in one of the ways above. -/
structure Consistent (s : CallSystem) : Prop where
  sound : s.channel.Sound
  nextId : s.channel.table.nextId = UInt32.ofNat s.calls.length
  known : ∀ id, s.channel.isPending id = true ∨ (s.channel.inbox id).isSome = true →
    ∃ n < s.calls.length, id = UInt32.ofNat n
  ids : ∀ (n : Nat) (call : CallRecord), s.calls[n]? = some call → call.id = UInt32.ofNat n
  since : ∀ (n : Nat) (call : CallRecord), s.calls[n]? = some call → call.since ≤ s.frames.length
  stands : ∀ (n : Nat) (call : CallRecord), s.calls[n]? = some call → s.Stands call

theorem consistent_start : start.Consistent where
  sound := CallChannel.sound_new
  nextId := rfl
  known := by simp [start, CallChannel.new, CallTable.new, CallChannel.isPending, CallChannel.inbox]
  ids := by simp [start]
  since := by simp [start]
  stands := by simp [start]

theorem ofNat_inj {m n : Nat} (hm : m < 2 ^ 32) (hn : n < 2 ^ 32)
    (h : UInt32.ofNat m = UInt32.ofNat n) : m = n := by
  have hNat := congrArg UInt32.toNat h
  rwa [UInt32.toNat_ofNat', UInt32.toNat_ofNat', Nat.mod_eq_of_lt hm, Nat.mod_eq_of_lt hn] at hNat

theorem Consistent.id_ne {s : CallSystem} (h : s.Consistent) (hLength : s.calls.length ≤ 2 ^ 32)
    {m n : Nat} {call other : CallRecord} (hCall : s.calls[n]? = some call)
    (hOther : s.calls[m]? = some other) (hNe : m ≠ n) : other.id ≠ call.id := by
  intro hSame
  have hm := (List.getElem?_eq_some_iff.mp hOther).1
  have hn := (List.getElem?_eq_some_iff.mp hCall).1
  rw [h.ids m other hOther, h.ids n call hCall] at hSame
  exact hNe (ofNat_inj (by omega) (by omega) hSame)

theorem Consistent.advance {s : CallSystem} (h : s.Consistent) (hLength : s.calls.length ≤ 2 ^ 32)
    {n : Nat} {call : CallRecord} (hCall : s.calls[n]? = some call) {stage : CallStage}
    {channel : CallChannel} (hSound : channel.Sound)
    (hNext : channel.table.nextId = s.channel.table.nextId)
    (hClosed : channel.table.closed = s.channel.table.closed)
    (hOthers : ∀ id, id ≠ call.id →
      channel.isPending id = s.channel.isPending id ∧ channel.inbox id = s.channel.inbox id)
    (hStands : Standing s.channel.table.closed (channel.isPending call.id) (channel.inbox call.id)
      (s.responsesTo call) stage) :
    (s.advance n stage channel).Consistent where
  sound := hSound
  nextId := by rw [advance_length]; exact hNext.trans h.nextId
  known id hId := by
    rw [advance_length]
    by_cases hSame : id = call.id
    · exact ⟨n, (List.getElem?_eq_some_iff.mp hCall).1, hSame.trans (h.ids n call hCall)⟩
    · obtain ⟨hPending, hInbox⟩ := hOthers id hSame
      refine h.known id ?_
      rw [← hPending, ← hInbox]
      exact hId
  ids m other hOther := by
    obtain ⟨old, hOld, hId, -, -⟩ := advance_cases hOther
    rw [hId]
    exact h.ids m old hOld
  since m other hOther := by
    obtain ⟨old, hOld, -, hSince, -⟩ := advance_cases hOther
    rw [hSince]
    exact h.since m old hOld
  stands m other hOther := by
    obtain ⟨old, hOld, hId, hSince, hStage⟩ := advance_cases hOther
    have hReplies : (s.advance n stage channel).responsesTo other = s.responsesTo old := by
      rw [responsesTo, responsesTo, hId, hSince]
      rfl
    rw [Stands, hReplies, hId]
    change Standing channel.table.closed (channel.isPending old.id) (channel.inbox old.id) _ _
    rw [hClosed]
    rcases hStage with ⟨rfl, hStage⟩ | ⟨hNe, hStage⟩
    · rw [hCall] at hOld
      cases hOld
      rw [hStage]
      exact hStands
    · obtain ⟨hPending, hInbox⟩ := hOthers old.id (h.id_ne hLength hCall hOld hNe)
      rw [hStage, hPending, hInbox]
      exact h.stands m old hOld

theorem Consistent.advance_same {s : CallSystem} (h : s.Consistent)
    (hLength : s.calls.length ≤ 2 ^ 32) {n : Nat} {call : CallRecord}
    (hCall : s.calls[n]? = some call) {stage : CallStage}
    (hStands : Standing s.channel.table.closed (s.channel.isPending call.id)
      (s.channel.inbox call.id) (s.responsesTo call) stage) :
    (s.advance n stage s.channel).Consistent :=
  h.advance hLength hCall h.sound rfl rfl (fun _ _ => ⟨rfl, rfl⟩) hStands

theorem Consistent.leave {s : CallSystem} (h : s.Consistent) (hLength : s.calls.length ≤ 2 ^ 32)
    {n : Nat} {call : CallRecord} (hCall : s.calls[n]? = some call) {stage : CallStage}
    (hInFlight : call.stage.isInFlight = true)
    (hStage : stage = .ended .timedOut ∨ ∃ error, stage = .ended (.unsent error)) :
    (s.advance n stage (s.channel.forget call.id)).Consistent := by
  refine h.advance hLength hCall (h.sound.forget call.id) rfl rfl ?_ ?_
  · intro id hId
    simp [h.sound, hId]
  · simpa [h.sound] using (h.stands n call hCall).giveUp hInFlight hStage

theorem Consistent.receive {s : CallSystem} (h : s.Consistent) (hLength : s.calls.length ≤ 2 ^ 32)
    {n : Nat} {call : CallRecord} (hCall : s.calls[n]? = some call) {reply : Reply}
    (hReply : s.channel.inbox call.id = some reply) :
    (s.advance n (.ended (.answered reply)) (s.channel.emptyMailbox call.id)).Consistent := by
  refine h.advance hLength hCall (h.sound.emptyMailbox call.id) rfl rfl ?_ ?_
  · intro id hId
    simp [hId]
  · have hStands := h.stands n call hCall
    rw [Stands, hReply] at hStands
    simpa using hStands.take

theorem Consistent.fresh {s : CallSystem} (h : s.Consistent) (hLength : s.calls.length < 2 ^ 32) :
    s.channel.isPending s.channel.table.nextId = false ∧
      s.channel.inbox s.channel.table.nextId = none := by
  have hNew : ¬∃ n < s.calls.length, s.channel.table.nextId = UInt32.ofNat n := by
    rintro ⟨n, hn, hSame⟩
    rw [h.nextId] at hSame
    have := ofNat_inj hLength (by omega) hSame
    omega
  constructor
  · rw [Bool.eq_false_iff]
    intro hPending
    exact hNew (h.known _ (.inl hPending))
  · rw [Option.eq_none_iff_forall_ne_some]
    intro reply hReply
    exact hNew (h.known _ (.inr (hReply ▸ rfl)))

theorem Consistent.enter {s : CallSystem} (h : s.Consistent) (hLength : s.calls.length < 2 ^ 32)
    {service method : String} {kwargs : Json.Value} {id : UInt32} {request : List UInt8}
    {channel : CallChannel}
    (hBegin : s.channel.begin service method kwargs = .ok (id, request, channel)) :
    Consistent { s with
      channel
      calls := s.calls ++ [⟨id, service, method, s.frames.length, .sending⟩] } := by
  obtain ⟨hFree, hEmpty⟩ := h.fresh hLength
  obtain ⟨rfl, hOpen, rfl⟩ := CallChannel.begin_fresh hFree hBegin
  constructor
  case sound => exact h.sound.enter hFree
  case nextId =>
    rw [List.length_append, List.length_singleton, UInt32.ofNat_add, ← h.nextId]
    rfl
  case known =>
    intro id hId
    rw [List.length_append, List.length_singleton]
    by_cases hSame : id = s.channel.table.nextId
    · exact ⟨s.calls.length, by omega, hSame.trans h.nextId⟩
    · obtain ⟨n, hn, hEq⟩ := h.known id (by simpa [hSame] using hId)
      exact ⟨n, by omega, hEq⟩
  case ids =>
    intro n call hCall
    rcases enter_cases hCall with hOld | ⟨rfl, rfl⟩
    · exact h.ids n call hOld
    · exact h.nextId
  case since =>
    intro n call hCall
    rcases enter_cases hCall with hOld | ⟨rfl, rfl⟩
    · exact h.since n call hOld
    · exact Nat.le_refl _
  case stands =>
    intro n call hCall
    rcases enter_cases hCall with hOld | ⟨rfl, rfl⟩
    · have hNe : call.id ≠ s.channel.table.nextId := by
        rw [h.ids n call hOld, h.nextId]
        intro hSame
        have hn := (List.getElem?_eq_some_iff.mp hOld).1
        have := ofNat_inj (by omega) hLength hSame
        omega
      have hStands := h.stands n call hOld
      rw [Stands, hOpen] at hStands
      simpa [Stands, responsesTo, hNe] using hStands
    · have hOpened : Standing false true none [] .sending := .open rfl
      simpa [Stands, responsesTo, hEmpty] using hOpened

theorem Stands.resolve {s : CallSystem} (hSound : s.channel.Sound) {call : CallRecord}
    (h : s.Stands call) (id : UInt32) (reply : Reply) :
    Standing s.channel.table.closed ((s.channel.resolve id reply).isPending call.id)
      ((s.channel.resolve id reply).inbox call.id)
      (s.responsesTo call ++ if id = call.id then [reply] else []) call.stage := by
  rw [Stands] at h
  by_cases hSame : id = call.id
  · subst hSame
    cases hPending : s.channel.isPending call.id with
    | true =>
      rw [hPending] at h
      simpa [hSound, hPending] using h.resolve reply
    | false =>
      rw [hPending] at h
      simpa [hSound, hPending] using h.later reply
  · simpa [hSound, hSame, Ne.symm hSame] using h

theorem Consistent.dispatch {s : CallSystem} (h : s.Consistent) (frame : Frame) :
    Consistent { s with channel := s.channel.handle frame, frames := s.frames ++ [frame] } := by
  have hReplies : ∀ (n : Nat) (call : CallRecord) (channel : CallChannel),
      s.calls[n]? = some call →
      responsesTo ⟨channel, s.calls, s.frames ++ [frame]⟩ call =
        s.responsesTo call ++ (replyTo call.id frame).toList := by
    intro n call channel hCall
    rw [responsesTo, List.drop_append_of_le_length (h.since n call hCall), List.filterMap_append]
    rfl
  have hSince : ∀ (n : Nat) (call : CallRecord), s.calls[n]? = some call →
      call.since ≤ (s.frames ++ [frame]).length := by
    intro n call hCall
    rw [List.length_append]
    exact Nat.le_add_right_of_le (h.since n call hCall)
  rw [CallChannel.handle_eq]
  cases hResponse : frame.response? with
  | none =>
    refine ⟨h.sound, h.nextId, h.known, h.ids, hSince, fun n call hCall => ?_⟩
    have hOther : replyTo call.id frame = none := by rw [replyTo, hResponse]
    rw [Stands, hReplies n call _ hCall, hOther, Option.toList_none, List.append_nil]
    exact h.stands n call hCall
  | some response =>
    obtain ⟨id, reply⟩ := response
    refine ⟨h.sound.resolve id reply, h.nextId, ?_, h.ids, hSince, fun n call hCall => ?_⟩
    · intro other hOther
      refine h.known other ?_
      simp only [CallChannel.isPending_resolve h.sound, CallChannel.inbox_resolve] at hOther
      rcases hOther with hPending | hInbox
      · exact .inl (Bool.and_eq_true_iff.mp hPending).2
      · split at hInbox
        · rename_i hFound
          exact .inl (hFound.2 ▸ hFound.1)
        · exact .inr hInbox
    · have hReply : (replyTo call.id frame).toList = if id = call.id then [reply] else [] := by
        simp only [replyTo, hResponse]
        split <;> rfl
      rw [Stands, hReplies n call _ hCall, hReply]
      exact (h.stands n call hCall).resolve h.sound id reply

theorem Consistent.close {s : CallSystem} (h : s.Consistent) :
    Consistent { s with channel := s.channel.close } := by
  refine ⟨CallChannel.sound_close _, h.nextId, fun id hId => ?_, h.ids, h.since,
    fun n call hCall => ?_⟩
  · exact h.known id (.inr (by simpa using hId))
  · simpa [Stands, responsesTo] using (h.stands n call hCall).close

theorem Consistent.step {s t : CallSystem} (h : s.Consistent) (hStep : Step s t)
    (hLength : t.calls.length ≤ 2 ^ 32) : t.Consistent := by
  have hBefore := Nat.le_trans hStep.length_le hLength
  cases hStep with
  | enter hBegin =>
    rw [List.length_append, List.length_singleton] at hLength
    exact h.enter (by omega) hBegin
  | refuse hBegin => exact h
  | send hCall hStage =>
    exact h.advance_same hBefore hCall ((h.stands _ _ hCall).goOn (hStage ▸ rfl) rfl)
  | failToSend error hCall hStage =>
    exact h.advance_same hBefore hCall ((h.stands _ _ hCall).goOn (hStage ▸ rfl) rfl)
  | leaveUnsent hCall hStage =>
    exact h.leave hBefore hCall (hStage ▸ rfl) (.inr ⟨_, rfl⟩)
  | receive hCall hStage hReply => exact h.receive hBefore hCall hReply
  | wake hCall hStage hReply hPending =>
    have hStands := h.stands _ _ hCall
    rw [Stands, hReply, hPending] at hStands
    refine h.advance_same hBefore hCall ?_
    rw [hReply, hPending]
    exact hStands.wake (hStage ▸ rfl)
  | expire hCall hStage hReply hPending =>
    exact h.advance_same hBefore hCall ((h.stands _ _ hCall).goOn (hStage ▸ rfl) rfl)
  | leaveExpired hCall hStage => exact h.leave hBefore hCall (hStage ▸ rfl) (.inl rfl)
  | dispatch frame => exact h.dispatch frame
  | close => exact h.close

theorem Leads.length_le {s t : CallSystem} (h : Leads s t) : s.calls.length ≤ t.calls.length := by
  induction h with
  | refl => exact Nat.le_refl _
  | tail _ hStep ih => exact Nat.le_trans ih hStep.length_le

theorem Consistent.leads {s t : CallSystem} (h : s.Consistent) (hLeads : Leads s t)
    (hLength : t.calls.length ≤ 2 ^ 32) : t.Consistent := by
  induction hLeads with
  | refl => exact h
  | tail _ hStep ih => exact (ih (Nat.le_trans hStep.length_le hLength)).step hStep hLength

end CallSystem

end DeviceRig
