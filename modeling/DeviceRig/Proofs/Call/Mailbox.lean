import DeviceRig.Call.Channel

/-!
# What the operations of a channel do to one number

A channel is looked at through one number at a time: whether its call is in
flight, and what is in its mailbox. Each operation concerns the numbers that
it names and leaves the view of all others as it was.
-/
namespace DeviceRig

open Json

namespace Frame

/-- The number and the reply that a frame carries, if it carries a response. -/
def response? (frame : Frame) : Option (UInt32 × Reply) :=
  match Packet.decode frame.payload with
  | .ok (.response callId ack payload) => some (UInt32.ofNat callId, ⟨ack, payload⟩)
  | _ => none

end Frame

namespace CallTable

theorem freeFrom_of_notMem {pending : List UInt32} {id : UInt32} (h : id ∉ pending)
    (skips : Nat) : freeFrom pending id skips = id := by
  cases skips with
  | zero => rfl
  | succ skips => simp [freeFrom, h]

end CallTable

namespace CallChannel

variable {channel after : CallChannel}

def isPending (channel : CallChannel) (id : UInt32) : Bool :=
  decide (id ∈ channel.table.pending)

def inbox (channel : CallChannel) (id : UInt32) : Option Reply :=
  channel.mailboxes.lookup id

/-- Enters a call under the number that the counter has reached. -/
def enter (channel : CallChannel) : CallChannel :=
  { channel with table :=
      ⟨channel.table.nextId :: channel.table.pending, channel.table.nextId + 1, false⟩ }

def emptyMailbox (channel : CallChannel) (id : UInt32) : CallChannel :=
  { channel with mailboxes := channel.mailboxes.filter fun entry => entry.1 ≠ id }

/-- Every number is in flight once at most, and none is after closing. -/
structure Sound (channel : CallChannel) : Prop where
  nodup : channel.table.pending.Nodup
  closed : channel.table.closed = true → channel.table.pending = []

theorem sound_new : new.Sound where
  nodup := List.nodup_nil
  closed _ := rfl

theorem begin_eq_ok {service method : String} {kwargs : Value} {id : UInt32}
    {request : List UInt8}
    (h : channel.begin service method kwargs = .ok (id, request, after)) :
    ∃ members table, callArguments kwargs = .ok members ∧
      channel.table.register = some (id, table) ∧
      request = (Packet.request id.toNat service method members).encode ∧
      after = { channel with table } := by
  unfold begin at h
  cases hKwargs : callArguments kwargs with
  | error error => rw [hKwargs] at h; cases h
  | ok members =>
    rw [hKwargs] at h
    cases hRegister : channel.table.register with
    | none =>
      simp only [bind, Except.bind, hRegister] at h
      cases h
    | some entry =>
      simp only [bind, Except.bind, hRegister, pure, Except.pure, Except.ok.injEq,
        Prod.mk.injEq] at h
      obtain ⟨rfl, rfl, rfl⟩ := h
      exact ⟨members, entry.2, rfl, rfl, rfl, rfl⟩

theorem begin_closed (hClosed : channel.table.closed = true) (service method : String)
    (kwargs : Value) (members : Members) (hKwargs : callArguments kwargs = .ok members) :
    channel.begin service method kwargs = .error .disconnected := by
  have hRegister : channel.table.register = none := by
    rw [CallTable.register, if_pos hClosed]
  rw [begin, hKwargs]
  simp only [bind, Except.bind, hRegister]
  rfl

theorem closed_of_begin {service method : String} {kwargs : Value} {id : UInt32}
    {request : List UInt8} (h : channel.begin service method kwargs = .ok (id, request, after)) :
    channel.table.closed = false := by
  obtain ⟨members, table, -, hRegister, -, -⟩ := begin_eq_ok h
  unfold CallTable.register at hRegister
  split at hRegister
  · cases hRegister
  · rename_i hOpen
    exact Bool.eq_false_iff.mpr hOpen

theorem begin_fresh {service method : String} {kwargs : Value} {id : UInt32}
    {request : List UInt8}
    (hFree : channel.isPending channel.table.nextId = false)
    (h : channel.begin service method kwargs = .ok (id, request, after)) :
    id = channel.table.nextId ∧ channel.table.closed = false ∧ after = channel.enter := by
  obtain ⟨members, table, -, hRegister, -, rfl⟩ := begin_eq_ok h
  unfold CallTable.register at hRegister
  split at hRegister
  · cases hRegister
  · rename_i hOpen
    have hNext := CallTable.freeFrom_of_notMem (of_decide_eq_false hFree)
      channel.table.pending.length
    simp only [hNext, Option.some.injEq, Prod.mk.injEq] at hRegister
    obtain ⟨rfl, rfl⟩ := hRegister
    simp [hOpen, enter]

@[simp]
theorem isPending_enter (channel : CallChannel) (id : UInt32) :
    channel.enter.isPending id = (decide (id = channel.table.nextId) || channel.isPending id) := by
  simp [isPending, enter]

@[simp]
theorem inbox_enter (channel : CallChannel) (id : UInt32) :
    channel.enter.inbox id = channel.inbox id := rfl

@[simp]
theorem closed_enter (channel : CallChannel) : channel.enter.table.closed = false := rfl

theorem Sound.enter (hSound : channel.Sound)
    (hFree : channel.isPending channel.table.nextId = false) : channel.enter.Sound where
  nodup := List.nodup_cons.mpr ⟨of_decide_eq_false hFree, hSound.nodup⟩
  closed hClosed := by cases hClosed

theorem finish_eq (channel : CallChannel) (settings : CallSettings) (id : UInt32)
    (service method : String) :
    channel.finish settings id service method =
      match channel.inbox id, channel.isPending id with
      | some reply, _ => (.ok reply, channel.emptyMailbox id)
      | none, true =>
        (match settings.policy with
          | .nack => .ok .nack
          | .error => .error (.timedOut service method settings.timeout), channel.forget id)
      | none, false => (.error .disconnected, channel) := by
  unfold finish
  cases hReply : channel.inbox id with
  | some reply =>
    simp only [inbox] at hReply
    rw [hReply]
    rfl
  | none =>
    have hContains : channel.table.pending.contains id = channel.isPending id :=
      List.contains_eq_mem id _
    simp only [inbox] at hReply
    rw [hReply, hContains]
    cases channel.isPending id with
    | true => rfl
    | false => rfl

@[simp]
theorem isPending_forget (hSound : channel.Sound) (id other : UInt32) :
    (channel.forget id).isPending other = (decide (other ≠ id) && channel.isPending other) := by
  simp [isPending, forget, CallTable.forget, hSound.nodup.mem_erase_iff]

@[simp]
theorem inbox_forget (channel : CallChannel) (id other : UInt32) :
    (channel.forget id).inbox other = channel.inbox other := rfl

theorem Sound.forget (hSound : channel.Sound) (id : UInt32) : (channel.forget id).Sound where
  nodup := hSound.nodup.erase id
  closed hClosed := by
    simp [CallChannel.forget, CallTable.forget, hSound.closed hClosed]

@[simp]
theorem isPending_emptyMailbox (channel : CallChannel) (id other : UInt32) :
    (channel.emptyMailbox id).isPending other = channel.isPending other := rfl

@[simp]
theorem inbox_emptyMailbox (channel : CallChannel) (id other : UInt32) :
    (channel.emptyMailbox id).inbox other = if other = id then none else channel.inbox other := by
  simp only [inbox, emptyMailbox]
  induction channel.mailboxes with
  | nil => simp
  | cons entry rest ih =>
    obtain ⟨owner, reply⟩ := entry
    by_cases hOwner : owner = id
    · subst hOwner
      rw [List.filter_cons_of_neg (by simp), ih]
      by_cases hOther : other = owner
      · simp [hOther]
      · simp [hOther, List.lookup_cons, beq_false_of_ne hOther]
    · rw [List.filter_cons_of_pos (by simp [hOwner]), List.lookup_cons, List.lookup_cons, ih]
      by_cases hOther : other = owner
      · simp [hOther, hOwner]
      · simp [beq_false_of_ne hOther]

theorem Sound.emptyMailbox (hSound : channel.Sound) (id : UInt32) :
    (channel.emptyMailbox id).Sound := ⟨hSound.nodup, hSound.closed⟩

@[simp]
theorem isPending_close (channel : CallChannel) (id : UInt32) :
    channel.close.isPending id = false := by
  simp [isPending, close, CallTable.close]

@[simp]
theorem inbox_close (channel : CallChannel) (id : UInt32) :
    channel.close.inbox id = channel.inbox id := rfl

@[simp]
theorem closed_close (channel : CallChannel) : channel.close.table.closed = true := rfl

theorem sound_close (channel : CallChannel) : channel.close.Sound where
  nodup := List.nodup_nil
  closed _ := rfl

theorem handle_eq (channel : CallChannel) (frame : Frame) :
    channel.handle frame =
      match frame.response? with
      | some (id, reply) => channel.resolve id reply
      | none => channel := by
  unfold handle Frame.response?
  split <;> rename_i hDecode <;> rw [hDecode]

@[simp]
theorem isPending_resolve (hSound : channel.Sound) (id : UInt32) (reply : Reply)
    (other : UInt32) :
    (channel.resolve id reply).isPending other =
      (decide (other ≠ id) && channel.isPending other) := by
  simp [isPending, resolve, CallTable.resolve, hSound.nodup.mem_erase_iff]

@[simp]
theorem inbox_resolve (channel : CallChannel) (id : UInt32) (reply : Reply) (other : UInt32) :
    (channel.resolve id reply).inbox other =
      if channel.isPending id = true ∧ other = id then (channel.inbox other).or (some reply)
      else channel.inbox other := by
  simp only [inbox, resolve, CallTable.resolve, isPending, List.contains_eq_mem, decide_eq_true_eq]
  by_cases hPending : id ∈ channel.table.pending
  · by_cases hOther : other = id
    · simp [hPending, hOther, List.lookup_append]
    · simp [hPending, hOther, List.lookup_append, List.lookup_cons, beq_false_of_ne hOther]
  · simp [hPending]

theorem Sound.resolve (hSound : channel.Sound) (id : UInt32) (reply : Reply) :
    (channel.resolve id reply).Sound where
  nodup := hSound.nodup.erase id
  closed hClosed := by
    have hEmpty := hSound.closed hClosed
    simp [CallChannel.resolve, CallTable.resolve, hEmpty]

end CallChannel

end DeviceRig
