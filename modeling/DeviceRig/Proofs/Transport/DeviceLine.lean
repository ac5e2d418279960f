import DeviceRig.Proofs.Call.Correlation
import DeviceRig.Proofs.Frame.Delivery
import DeviceRig.Proofs.Transport.Receiving

/-!
# Replies over a serial line

The device at a serial line stays connected while the transport is opened,
used and closed. Opening drops what has arrived, but what the device still has
to say comes later, and every opening numbers its calls from zero. So a reply
is the answer to the call that returns it, or else to a call of an earlier
period that was not answered when the last one began.
-/
namespace DeviceRig

open Json

def CallChannel.ending (channel : CallChannel) (id : UInt32) : CallEnd :=
  match channel.inbox id with
  | some reply => .answered reply
  | none => if channel.isPending id then .timedOut else .disconnected

theorem CallChannel.finish_ending (channel : CallChannel) (settings : CallSettings) (id : UInt32)
    (service method : String) :
    (channel.finish settings id service method).1 =
      (channel.ending id).outcome settings service method := by
  rw [finish_eq, ending]
  cases channel.inbox id with
  | some reply => rfl
  | none => cases channel.isPending id <;> rfl

def CallEnd.ofSending : Except TransportError UInt32 → Option CallEnd
  | .error (.call error) => some (.unsent error)
  | .error _ | .ok _ => none

theorem CallEnd.ofSending_ne (sent : Except TransportError UInt32) (reply : Reply) :
    ofSending sent ≠ some (.answered reply) := by
  unfold ofSending
  split
  · exact nofun
  · exact nofun
  · exact nofun

structure LineCall where
  id : UInt32
  service : String
  method : String
  /-- The calls of earlier periods whose answers had still to come when this period began. -/
  stale : List Nat
  outcome : Option CallEnd

/-- What the device has said to the call at a place. -/
structure LineAnswer where
  place : Nat
  id : UInt32
  reply : Reply

namespace LineAnswer

def message (answer : LineAnswer) : Frame.Message :=
  (Frame.callAddress,
    (Packet.response answer.id.toNat answer.reply.ack answer.reply.payload).encode)

def frame (answer : LineAnswer) : Frame :=
  ⟨answer.message.1, answer.message.2, true⟩

theorem response?_frame (answer : LineAnswer) :
    answer.frame.response? = some (answer.id, answer.reply) :=
  Frame.response?_of_decode
    (Packet.decode_encode_response answer.reply.ack answer.reply.payload (UInt32.toNat_lt _))

theorem mem_accepted {maxPayload : Nat} {answers : List LineAnswer} {frame : Frame}
    (h : frame ∈ Frame.accepted maxPayload (answers.map message)) :
    ∃ answer ∈ answers, frame = answer.frame := by
  obtain ⟨message, hMessage, rfl⟩ := List.mem_map.mp h
  obtain ⟨answer, hAnswer, rfl⟩ := List.mem_map.mp (List.mem_filter.mp hMessage).1
  exact ⟨answer, hAnswer, rfl⟩

end LineAnswer

/-- A transport at a serial line with a device. The calls are those of all periods, in order;
`first` counts those before the last opening. A request that the device has received is owed an
answer or is answered. Of the answers some are still coming, one may be torn between what has
arrived and what has not, and what has arrived is there until the worker reads it. -/
structure DeviceLine where
  transport : Transport
  calls : List LineCall
  first : Nat
  stale : List Nat
  owed : List Nat
  answered : List LineAnswer
  coming : List LineAnswer
  torn : List UInt8
  arrived : List UInt8

namespace DeviceLine

def start (address : LinkAddress) (settings : TransportSettings) (media : Media) : DeviceLine where
  transport := .new address settings media
  calls := []
  first := 0
  stale := []
  owed := []
  answered := []
  coming := []
  torn := []
  arrived := []

/-- What the worker has still to read, with what has not arrived yet. -/
def wire (line : DeviceLine) : List UInt8 :=
  line.arrived ++ (line.torn ++ Frame.encodeAll (line.coming.map LineAnswer.message))

/-- The steps of whoever uses the transport, of its worker, of the device and of the line. -/
inductive Step : DeviceLine → DeviceLine → Prop where
  | opens {line : DeviceLine} {conditions : OpenConditions} {after : Transport}
      {actions : List LinkAction}
      (hOpen : line.transport.openLink conditions = (.ok (), after, actions)) :
      Step line { line with
        transport := after
        first := line.calls.length
        stale := line.owed ++ line.coming.map LineAnswer.place
        arrived := [] }
  | failsToOpen {line : DeviceLine} {conditions : OpenConditions} {after : Transport}
      {error : TransportError} {actions : List LinkAction} {left : List UInt8}
      (hOpen : line.transport.openLink conditions = (.error error, after, actions))
      (hLeft : left = line.arrived ∨ (line.transport.holdsLink = false ∧ left = [])) :
      Step line { line with transport := after, arrived := left }
  | closes (line : DeviceLine) (conditions : CloseConditions) :
      Step line { line with transport := (line.transport.closeLink conditions).2.1 }
  /-- A call is entered. The device receives its request if all of it gets on the line. -/
  | calls {line : DeviceLine} {channel begun : CallChannel} {service method : String}
      {kwargs : Value} {id : UInt32} {request wire : List UInt8} {conditions : SendConditions}
      {sent : Except TransportError UInt32} {after : Transport}
      (hCalls : line.transport.calls = some channel)
      (hBegin : channel.begin service method kwargs = .ok (id, request, begun))
      (hCall : line.transport.beginCall service method kwargs conditions = (sent, wire, after)) :
      Step line { line with
        transport := after
        calls := line.calls ++ [⟨id, service, method, line.stale, CallEnd.ofSending sent⟩]
        owed := if wire = Frame.encode Frame.callAddress request then
            line.owed ++ [line.calls.length]
          else line.owed }
  | comesBack {line : DeviceLine} {place : Nat} {call : LineCall} {channel : CallChannel}
      (hCall : line.calls[place]? = some call) (hFirst : line.first ≤ place)
      (hWaits : call.outcome = none) (hCalls : line.transport.calls = some channel) :
      Step line { line with
        transport := (line.transport.finishCall call.id call.service call.method).2
        calls := line.calls.set place { call with outcome := some (channel.ending call.id) } }
  | answers {line : DeviceLine} {place : Nat} {call : LineCall} (hOwed : place ∈ line.owed)
      (hCall : line.calls[place]? = some call) (reply : Reply) :
      Step line { line with
        owed := line.owed.erase place
        answered := line.answered ++ [⟨place, call.id, reply⟩]
        coming := line.coming ++ [⟨place, call.id, reply⟩] }
  | arrives {line : DeviceLine} {answer : LineAnswer} {rest : List LineAnswer}
      {piece behind : List UInt8} (hTorn : line.torn = []) (hComing : line.coming = answer :: rest)
      (hPiece : piece ≠ [])
      (hWire : Frame.encode answer.message.1 answer.message.2 = piece ++ behind) :
      Step line { line with coming := rest, torn := behind, arrived := line.arrived ++ piece }
  | arrivesOn {line : DeviceLine} {piece behind : List UInt8}
      (hTorn : line.torn = piece ++ behind) :
      Step line { line with torn := behind, arrived := line.arrived ++ piece }
  | reads {line : DeviceLine} {piece behind : List UInt8}
      (hAlive : line.transport.worker.isAlive = true) (hArrived : line.arrived = piece ++ behind) :
      Step line { line with transport := line.transport.receive piece, arrived := behind }
  | ends (line : DeviceLine) (hAlive : line.transport.worker.isAlive = true) :
      Step line { line with transport := line.transport.hangUp }
  | panics (line : DeviceLine) : Step line { line with transport := line.transport.crash }

abbrev Leads : DeviceLine → DeviceLine → Prop :=
  Relation.ReflTransGen Step

/-- Whether the call at a place may still be answered in this period. -/
def Timely (line : DeviceLine) (place : Nat) : Prop :=
  line.first ≤ place ∨ place ∈ line.stale

structure Serving (line : DeviceLine) (channel : CallChannel) : Prop where
  calls : line.transport.calls = some channel
  first : line.first ≤ line.calls.length
  ids : ∀ place call, line.first ≤ place → line.calls[place]? = some call →
    call.id = UInt32.ofNat (place - line.first) ∧ call.stale = line.stale
  nextId : channel.table.nextId = UInt32.ofNat (line.calls.length - line.first)
  pending : ∀ id ∈ channel.table.pending, ∃ k < line.calls.length - line.first, id = UInt32.ofNat k
  mailboxes : ∀ entry ∈ channel.mailboxes, ∃ answer ∈ line.answered,
    (answer.id, answer.reply) = entry ∧ line.Timely answer.place
  owed : ∀ place ∈ line.owed, line.Timely place
  wire : ∃ frames, Frame.Decoder.Carries line.transport.settings.worker.maxPayload
      line.transport.decoder line.wire frames ∧
    ∀ frame ∈ frames, ∃ answer ∈ line.answered, frame = answer.frame ∧ line.Timely answer.place

/-- A reply is the answer to the call itself, or to one that was stale when its period began. -/
def Answered (line : DeviceLine) (place : Nat) (call : LineCall) (reply : Reply) : Prop :=
  ∃ answer ∈ line.answered, answer.id = call.id ∧ answer.reply = reply ∧
    (answer.place = place ∨ answer.place ∈ call.stale)

structure Sound (line : DeviceLine) : Prop where
  linked : line.transport.holdsLink = line.transport.calls.isSome
  torn : Frame.IsTorn line.torn
  owed : ∀ place ∈ line.owed, place < line.calls.length
  coming : line.coming ⊆ line.answered
  answered : ∀ answer ∈ line.answered, ∃ call, line.calls[answer.place]? = some call ∧
    call.id = answer.id
  replies : ∀ (place : Nat) (call : LineCall) (reply : Reply), line.calls[place]? = some call →
    call.outcome = some (.answered reply) → line.Answered place call reply
  serving : ∀ channel, line.transport.calls = some channel → line.Serving channel

theorem sound_start (address : LinkAddress) (settings : TransportSettings) (media : Media) :
    (start address settings media).Sound where
  linked := rfl
  torn := .inl rfl
  owed := nofun
  coming := List.nil_subset _
  answered := nofun
  replies _ _ _ hCall := by cases hCall
  serving := nofun

variable {line : DeviceLine}

theorem Sound.closed (h : line.Sound) {transport : Transport} (hLink : transport.holdsLink = false)
    (hCalls : transport.calls = none) (arrived : List UInt8) :
    Sound { line with transport, arrived } where
  linked := by
    dsimp only
    rw [hLink, hCalls]
    rfl
  torn := h.torn
  owed := h.owed
  coming := h.coming
  answered := h.answered
  replies := h.replies
  serving channel hChannel := by
    rw [hCalls] at hChannel
    cases hChannel

/-- What the device has still to answer, or has answered and not all of it has arrived, is stale
when a period begins. -/
theorem Sound.opens (h : line.Sound) {conditions : OpenConditions} {after : Transport}
    {actions : List LinkAction}
    (hOpen : line.transport.openLink conditions = (.ok (), after, actions)) :
    Sound { line with
      transport := after
      first := line.calls.length
      stale := line.owed ++ line.coming.map LineAnswer.place
      arrived := [] } := by
  have hOpens := line.transport.opens conditions
  rw [hOpen] at hOpens
  cases hOpens with
  | opened hFree hStarts =>
    cases hStarts with
    | started hStop =>
      refine ⟨rfl, h.torn, h.owed, h.coming, h.answered, h.replies, fun channel hChannel => ?_⟩
      obtain rfl := Option.some.inj hChannel
      have hComing : ∀ answer ∈ line.coming,
          answer.place ∈ line.owed ++ line.coming.map LineAnswer.place := fun answer hAnswer =>
        List.mem_append_right _ (List.mem_map_of_mem hAnswer)
      refine ⟨rfl, Nat.le_refl _, ?_, ?_, nofun, nofun, ?_, ?_⟩
      · intro place call hPlace hCall
        have hLess := (List.getElem?_eq_some_iff.mp hCall).1
        exact absurd hLess (Nat.not_lt.mpr hPlace)
      · rw [Nat.sub_self]
        rfl
      · exact fun place hPlace => .inr (List.mem_append_left _ hPlace)
      · refine ⟨_, Frame.Decoder.carries_torn _ h.torn _, fun frame hFrame => ?_⟩
        obtain ⟨answer, hAnswer, rfl⟩ := LineAnswer.mem_accepted hFrame
        exact ⟨answer, h.coming hAnswer, rfl, .inr (hComing answer hAnswer)⟩

theorem Sound.failsToOpen (h : line.Sound) {conditions : OpenConditions} {after : Transport}
    {error : TransportError} {actions : List LinkAction} {left : List UInt8}
    (hOpen : line.transport.openLink conditions = (.error error, after, actions))
    (hLeft : left = line.arrived ∨ (line.transport.holdsLink = false ∧ left = [])) :
    Sound { line with transport := after, arrived := left } := by
  have hOpens := line.transport.opens conditions
  rw [hOpen] at hOpens
  cases hOpens with
  | held hHeld =>
    rcases hLeft with rfl | ⟨hFree, -⟩
    · exact h
    · rw [hHeld] at hFree
      cases hFree
  | notLocked hFree hError hActions =>
    exact h.closed hFree (Transport.calls_eq_none h.linked hFree) left
  | notStarted hFree hStarts =>
    have hCalls := Transport.calls_eq_none h.linked hFree
    cases hStarts with
    | notStopped hStop =>
      refine h.closed ?_ ?_ left
      · exact hFree
      · exact hCalls
    | notStarted hStop hError hKept =>
      refine h.closed ?_ ?_ left
      · exact hFree
      · exact hCalls

theorem Sound.closes (h : line.Sound) (conditions : CloseConditions) :
    Sound { line with transport := (line.transport.closeLink conditions).2.1 } := by
  have hCloses := line.transport.closes conditions
  generalize line.transport.closeLink conditions = outcome at hCloses ⊢
  cases hCloses with
  | free hFree => exact h
  | closed hHeld hStop hUnlock hActions => exact h.closed rfl rfl line.arrived
  | notClosed hHeld hSome hStop hUnlock hActions => exact h.closed rfl rfl line.arrived

theorem Serving.fresh {channel : CallChannel} (h : line.Serving channel)
    (hLength : line.calls.length < 2 ^ 32) :
    channel.isPending channel.table.nextId = false := by
  refine decide_eq_false fun hPending => ?_
  obtain ⟨k, hLess, hSame⟩ := h.pending _ hPending
  rw [h.nextId] at hSame
  have hk := CallSystem.ofNat_inj (by omega) (by omega) hSame
  omega

theorem Serving.fewer {channel other : CallChannel} (h : line.Serving channel)
    (hFewer : other.Fewer channel) {transport : Transport} (hCalls : transport.calls = some other)
    (hSettings : transport.settings = line.transport.settings)
    (hDecoder : transport.decoder = line.transport.decoder) :
    Serving { line with transport } other where
  calls := hCalls
  first := h.first
  ids := h.ids
  nextId := hFewer.nextId.trans h.nextId
  pending id hId := h.pending id (hFewer.pending hId)
  mailboxes entry hEntry := h.mailboxes entry (hFewer.mailboxes hEntry)
  owed := h.owed
  wire := by
    dsimp only
    rw [hSettings, hDecoder]
    exact h.wire

theorem Sound.calls (h : line.Sound) (hLength : line.calls.length < 2 ^ 32)
    {channel begun : CallChannel} {service method : String} {kwargs : Value} {id : UInt32}
    {request wire : List UInt8} {conditions : SendConditions}
    {sent : Except TransportError UInt32} {after : Transport}
    (hCalls : line.transport.calls = some channel)
    (hBegin : channel.begin service method kwargs = .ok (id, request, begun))
    (hCall : line.transport.beginCall service method kwargs conditions = (sent, wire, after)) :
    Sound { line with
      transport := after
      calls := line.calls ++ [⟨id, service, method, line.stale, CallEnd.ofSending sent⟩]
      owed := if wire = Frame.encode Frame.callAddress request then
          line.owed ++ [line.calls.length]
        else line.owed } := by
  have hServing := h.serving channel hCalls
  obtain ⟨hId, -, rfl⟩ := CallChannel.begin_fresh (hServing.fresh hLength) hBegin
  obtain ⟨other, hFewer, hOther⟩ := Transport.beginCall_of_begin hCalls hBegin conditions
  rw [hCall] at hOther
  obtain rfl : after = { line.transport with calls := some other } := hOther
  generalize hNew : (⟨id, service, method, line.stale, CallEnd.ofSending sent⟩ : LineCall) = new
  have hOwed : ∀ place ∈ (if wire = Frame.encode Frame.callAddress request then
      line.owed ++ [line.calls.length] else line.owed),
      place ∈ line.owed ∨ place = line.calls.length := by
    intro place hPlace
    split at hPlace
    · simpa using hPlace
    · exact .inl hPlace
  have hCases : ∀ {place : Nat} {call : LineCall}, (line.calls ++ [new])[place]? = some call →
      line.calls[place]? = some call ∨ (place = line.calls.length ∧ call = new) := by
    intro place call hPlace
    rcases Nat.lt_trichotomy place line.calls.length with hLess | rfl | hMore
    · rw [List.getElem?_append_left hLess] at hPlace
      exact .inl hPlace
    · rw [List.getElem?_concat_length] at hPlace
      exact .inr ⟨rfl, (Option.some.inj hPlace).symm⟩
    · rw [List.getElem?_eq_none (by simpa [Nat.succ_le_iff] using hMore)] at hPlace
      cases hPlace
  refine ⟨h.linked.trans (by rw [hCalls]; rfl), h.torn, ?_, h.coming, ?_, ?_, ?_⟩
  · intro place hPlace
    rw [List.length_append, List.length_singleton]
    rcases hOwed place hPlace with hOld | rfl
    · exact Nat.lt_succ_of_lt (h.owed place hOld)
    · exact Nat.lt_succ_self _
  · intro answer hAnswer
    obtain ⟨call, hPlace, hSame⟩ := h.answered answer hAnswer
    refine ⟨call, ?_, hSame⟩
    rw [List.getElem?_append_left (List.getElem?_eq_some_iff.mp hPlace).1]
    exact hPlace
  · intro place call reply hPlace hOutcome
    rcases hCases hPlace with hOld | ⟨-, rfl⟩
    · exact h.replies place call reply hOld hOutcome
    · rw [← hNew] at hOutcome
      exact absurd hOutcome (CallEnd.ofSending_ne sent reply)
  · intro found hFound
    obtain rfl := Option.some.inj hFound
    refine ⟨rfl, ?_, ?_, ?_, ?_, ?_, ?_, hServing.wire⟩
    · rw [List.length_append]
      exact Nat.le_add_right_of_le hServing.first
    · intro place call hFirst hPlace
      rcases hCases hPlace with hOld | ⟨rfl, rfl⟩
      · exact hServing.ids place call hFirst hOld
      · rw [← hNew]
        exact ⟨hId.trans hServing.nextId, rfl⟩
    · have hCount : line.calls.length + 1 - line.first = line.calls.length - line.first + 1 := by
        have hFirst := hServing.first
        omega
      rw [List.length_append, List.length_singleton, hCount, UInt32.ofNat_add, ← hServing.nextId]
      exact hFewer.nextId
    · intro found hPending
      rw [List.length_append, List.length_singleton]
      dsimp only
      have hFirst := hServing.first
      rcases List.mem_cons.mp (hFewer.pending hPending) with rfl | hOld
      · exact ⟨line.calls.length - line.first, by omega, hServing.nextId⟩
      · obtain ⟨k, hLess, hSame⟩ := hServing.pending found hOld
        exact ⟨k, by omega, hSame⟩
    · exact fun entry hEntry => hServing.mailboxes entry (hFewer.mailboxes hEntry)
    · intro place hPlace
      rcases hOwed place hPlace with hOld | rfl
      · exact hServing.owed place hOld
      · exact .inl hServing.first

theorem mem_mailboxes_of_ending {channel : CallChannel} {id : UInt32} {reply : Reply}
    (h : channel.ending id = .answered reply) : (id, reply) ∈ channel.mailboxes := by
  unfold CallChannel.ending at h
  split at h
  · rename_i found hFound
    cases h
    obtain ⟨before, behind, hBoxes, -⟩ := List.lookup_eq_some_iff.mp hFound
    rw [hBoxes]
    exact List.mem_append_right before List.mem_cons_self
  · split at h <;> cases h

theorem Serving.place_eq {channel : CallChannel} (h : line.Serving channel)
    (hLength : line.calls.length < 2 ^ 32) {place other : Nat} {call found : LineCall}
    (hFirst : line.first ≤ place) (hCall : line.calls[place]? = some call)
    (hOther : line.first ≤ other) (hFound : line.calls[other]? = some found)
    (hSame : found.id = call.id) : other = place := by
  have hLess := (List.getElem?_eq_some_iff.mp hCall).1
  have hOtherLess := (List.getElem?_eq_some_iff.mp hFound).1
  rw [(h.ids place call hFirst hCall).1, (h.ids other found hOther hFound).1] at hSame
  have hOffset := CallSystem.ofNat_inj (by omega) (by omega) hSame
  omega

theorem Sound.comesBack (h : line.Sound) (hLength : line.calls.length < 2 ^ 32) {place : Nat}
    {call : LineCall} {channel : CallChannel} (hCall : line.calls[place]? = some call)
    (hFirst : line.first ≤ place) (hCalls : line.transport.calls = some channel) :
    Sound { line with
      transport := (line.transport.finishCall call.id call.service call.method).2
      calls := line.calls.set place { call with outcome := some (channel.ending call.id) } } := by
  have hServing := h.serving channel hCalls
  have hFewer := channel.fewer_finish line.transport.settings.call call.id call.service call.method
  have hLess := (List.getElem?_eq_some_iff.mp hCall).1
  have hCases : ∀ {other : Nat} {found : LineCall},
      (line.calls.set place { call with outcome := some (channel.ending call.id) })[other]? =
          some found →
        ∃ old, line.calls[other]? = some old ∧ found.id = old.id ∧ found.stale = old.stale ∧
          (found = old ∨ (other = place ∧ found.outcome = some (channel.ending call.id))) := by
    intro other found hFound
    rw [List.getElem?_set] at hFound
    split at hFound
    · rename_i hPlace
      subst hPlace
      cases hFound
      exact ⟨call, hCall, rfl, rfl, .inr ⟨rfl, rfl⟩⟩
    · exact ⟨found, hFound, rfl, rfl, .inl rfl⟩
  have hOwn : ∀ reply, channel.ending call.id = .answered reply →
      line.Answered place call reply := by
    intro reply hEnding
    obtain ⟨answer, hAnswer, hEntry, hTimely⟩ :=
      hServing.mailboxes _ (mem_mailboxes_of_ending hEnding)
    obtain ⟨hId, hReply⟩ := Prod.mk.inj hEntry
    refine ⟨answer, hAnswer, hId, hReply, ?_⟩
    rcases hTimely with hSince | hStale
    · obtain ⟨other, hOther, hSame⟩ := h.answered answer hAnswer
      exact .inl (hServing.place_eq hLength hFirst hCall hSince hOther (hSame.trans hId))
    · rw [(hServing.ids place call hFirst hCall).2]
      exact .inr hStale
  rw [Transport.finishCall_of_calls hCalls]
  refine ⟨h.linked.trans (by rw [hCalls]; rfl), h.torn, ?_, h.coming, ?_, ?_, ?_⟩
  · intro other hOther
    rw [List.length_set]
    exact h.owed other hOther
  · intro answer hAnswer
    obtain ⟨old, hOld, hSame⟩ := h.answered answer hAnswer
    by_cases hPlace : place = answer.place
    · subst hPlace
      rw [hCall] at hOld
      cases hOld
      refine ⟨{ call with outcome := some (channel.ending call.id) }, ?_, hSame⟩
      exact List.getElem?_set_self hLess
    · refine ⟨old, ?_, hSame⟩
      dsimp only
      rw [List.getElem?_set_ne hPlace]
      exact hOld
  · intro other found reply hFound hOutcome
    obtain ⟨old, hOld, hId, hStale, hSame | ⟨rfl, hEnding⟩⟩ := hCases hFound
    · subst hSame
      exact h.replies other found reply hOld hOutcome
    · rw [hCall] at hOld
      cases hOld
      rw [hEnding] at hOutcome
      obtain ⟨answer, hAnswer, hSame, hReply, hPlace⟩ := hOwn reply (Option.some.inj hOutcome)
      exact ⟨answer, hAnswer, hSame.trans hId.symm, hReply, hStale ▸ hPlace⟩
  · intro found hFound
    obtain rfl := Option.some.inj hFound
    refine ⟨rfl, ?_, ?_, ?_, ?_, ?_, hServing.owed, hServing.wire⟩
    · rw [List.length_set]
      exact hServing.first
    · intro other found hSince hFound
      obtain ⟨old, hOld, hId, hStale, -⟩ := hCases hFound
      rw [hId, hStale]
      exact hServing.ids other old hSince hOld
    · rw [List.length_set]
      exact hFewer.nextId.trans hServing.nextId
    · rw [List.length_set]
      exact fun id hPending => hServing.pending id (hFewer.pending hPending)
    · exact fun entry hEntry => hServing.mailboxes entry (hFewer.mailboxes hEntry)

theorem Sound.answers (h : line.Sound) {place : Nat} {call : LineCall}
    (hCall : line.calls[place]? = some call) (hOwed : place ∈ line.owed) (reply : Reply) :
    Sound { line with
      owed := line.owed.erase place
      answered := line.answered ++ [⟨place, call.id, reply⟩]
      coming := line.coming ++ [⟨place, call.id, reply⟩] } := by
  generalize hAnswer : (⟨place, call.id, reply⟩ : LineAnswer) = answer
  have hLast : answer ∈ line.answered ++ [answer] :=
    List.mem_append_right _ (List.mem_singleton.mpr rfl)
  refine ⟨h.linked, h.torn, fun other hOther => h.owed other (List.mem_of_mem_erase hOther), ?_,
    ?_, ?_, ?_⟩
  · intro found hFound
    rcases List.mem_append.mp hFound with hOld | hNew
    · exact List.mem_append_left _ (h.coming hOld)
    · exact List.mem_append_right _ hNew
  · intro found hFound
    rcases List.mem_append.mp hFound with hOld | hNew
    · exact h.answered found hOld
    · obtain rfl := List.mem_singleton.mp hNew
      subst hAnswer
      exact ⟨call, hCall, rfl⟩
  · intro other found given hFound hOutcome
    obtain ⟨old, hOld, hRest⟩ := h.replies other found given hFound hOutcome
    exact ⟨old, List.mem_append_left _ hOld, hRest⟩
  · intro channel hChannel
    have hServing := h.serving channel hChannel
    have hTimely : line.Timely answer.place := by
      subst hAnswer
      exact hServing.owed place hOwed
    obtain ⟨frames, hCarries, hFrames⟩ := hServing.wire
    have hSent := hCarries.send answer.message.1 answer.message.2
    have hWire : line.wire ++ Frame.encode answer.message.1 answer.message.2 =
        line.arrived ++ (line.torn ++
          Frame.encodeAll ((line.coming ++ [answer]).map LineAnswer.message)) := by
      simp [wire, Frame.encodeAll]
    rw [hWire] at hSent
    refine ⟨hServing.calls, hServing.first, hServing.ids, hServing.nextId, hServing.pending, ?_,
      fun other hOther => hServing.owed other (List.mem_of_mem_erase hOther), _, hSent, ?_⟩
    · intro entry hEntry
      obtain ⟨old, hOld, hRest⟩ := hServing.mailboxes entry hEntry
      exact ⟨old, List.mem_append_left _ hOld, hRest⟩
    · intro frame hFrame
      rcases List.mem_append.mp hFrame with hOld | hNew
      · obtain ⟨old, hOld, hRest⟩ := hFrames frame hOld
        exact ⟨old, List.mem_append_left _ hOld, hRest⟩
      · obtain ⟨found, hFound, rfl⟩ := @LineAnswer.mem_accepted _ [answer] _ hNew
        obtain rfl := List.mem_singleton.mp hFound
        exact ⟨found, hLast, rfl, hTimely⟩

theorem Sound.moves (h : line.Sound) {coming : List LineAnswer} {torn arrived : List UInt8}
    (hTorn : Frame.IsTorn torn) (hComing : coming ⊆ line.coming)
    (hWire : arrived ++ (torn ++ Frame.encodeAll (coming.map LineAnswer.message)) = line.wire) :
    Sound { line with coming, torn, arrived } where
  linked := h.linked
  torn := hTorn
  owed := h.owed
  coming := List.Subset.trans hComing h.coming
  answered := h.answered
  replies := h.replies
  serving channel hChannel := by
    have hServing := h.serving channel hChannel
    refine ⟨hServing.calls, hServing.first, hServing.ids, hServing.nextId, hServing.pending,
      hServing.mailboxes, hServing.owed, ?_⟩
    obtain ⟨frames, hCarries, hFrames⟩ := hServing.wire
    rw [← hWire] at hCarries
    exact ⟨frames, hCarries, hFrames⟩

/-- Whatever the worker does, an open transport stays open and a closed one stays closed. -/
theorem Sound.stays (h : line.Sound) {transport : Transport} (arrived : List UInt8)
    (hLink : transport.holdsLink = line.transport.holdsLink)
    (hSome : transport.calls.isSome = line.transport.calls.isSome)
    (hServes : ∀ channel, line.transport.calls = some channel →
      ∃ other, Serving { line with transport, arrived } other) :
    Sound { line with transport, arrived } where
  linked := hLink.trans (h.linked.trans hSome.symm)
  torn := h.torn
  owed := h.owed
  coming := h.coming
  answered := h.answered
  replies := h.replies
  serving found hFound := by
    have hOpen : line.transport.calls.isSome = true := by
      rw [← hSome, hFound]
      rfl
    obtain ⟨channel, hCalls⟩ := Option.isSome_iff_exists.mp hOpen
    obtain ⟨other, hOther⟩ := hServes channel hCalls
    obtain rfl := Option.some.inj (hOther.calls.symm.trans hFound)
    exact hOther

theorem Sound.reads (h : line.Sound) {piece behind : List UInt8}
    (hAlive : line.transport.worker.isAlive = true) (hArrived : line.arrived = piece ++ behind) :
    Sound { line with transport := line.transport.receive piece, arrived := behind } := by
  obtain ⟨hLink, hSome⟩ := line.transport.receive_keeps piece
  refine h.stays behind hLink hSome fun channel hCalls => ?_
  have hServing := h.serving channel hCalls
  obtain ⟨frames, hCarries, hFrames⟩ := hServing.wire
  have hWire : line.wire =
      piece ++ (behind ++ (line.torn ++
        Frame.encodeAll (line.coming.map LineAnswer.message))) := by
    rw [wire, hArrived, List.append_assoc]
  rw [hWire] at hCarries
  obtain ⟨later, rfl, hLater⟩ := hCarries.read
  obtain ⟨hPending, hNext⟩ := channel.table_handleAll (line.transport.decoder.feed piece).2
  rw [Transport.receive_of_calls hAlive hCalls]
  refine ⟨_, rfl, hServing.first, hServing.ids, hNext.trans hServing.nextId,
    fun id hId => hServing.pending id (hPending hId), ?_, hServing.owed, later, hLater, ?_⟩
  · intro entry hEntry
    rcases CallChannel.mem_mailboxes_handleAll hEntry with hOld | ⟨frame, hFrame, -, -, hResponse⟩
    · exact hServing.mailboxes entry hOld
    · obtain ⟨answer, hAnswer, rfl, hTimely⟩ := hFrames frame (List.mem_append_left _ hFrame)
      rw [LineAnswer.response?_frame] at hResponse
      exact ⟨answer, hAnswer, Option.some.inj hResponse, hTimely⟩
  · exact fun frame hFrame => hFrames frame (List.mem_append_right _ hFrame)

theorem Sound.ends (h : line.Sound) (hAlive : line.transport.worker.isAlive = true) :
    Sound { line with transport := line.transport.hangUp } := by
  obtain ⟨hLink, hSome⟩ := line.transport.hangUp_keeps
  refine h.stays line.arrived hLink hSome fun channel hCalls => ?_
  rw [Transport.hangUp_of_calls hAlive hCalls]
  exact ⟨_, (h.serving channel hCalls).fewer channel.fewer_close rfl rfl rfl⟩

theorem Sound.step {next : DeviceLine} (h : line.Sound) (hLength : line.calls.length < 2 ^ 32)
    (hStep : Step line next) : next.Sound := by
  cases hStep with
  | opens hOpen => exact h.opens hOpen
  | failsToOpen hOpen hLeft => exact h.failsToOpen hOpen hLeft
  | closes conditions => exact h.closes conditions
  | calls hCalls hBegin hCall => exact h.calls hLength hCalls hBegin hCall
  | comesBack hCall hFirst hWaits hCalls => exact h.comesBack hLength hCall hFirst hCalls
  | answers hOwed hCall reply => exact h.answers hCall hOwed reply
  | arrives hTorn hComing hPiece hWire =>
    refine h.moves (Frame.isTorn_of_encode hPiece hWire) ?_ ?_
    · rw [hComing]
      exact List.subset_cons_self _ _
    · rw [wire, hTorn, hComing, List.map_cons, Frame.Decoder.encodeAll_cons, hWire]
      simp
  | arrivesOn hTorn =>
    have hRest := h.torn
    rw [hTorn] at hRest
    refine h.moves hRest.of_append (List.Subset.refl _) ?_
    rw [wire, hTorn]
    simp
  | reads hAlive hArrived => exact h.reads hAlive hArrived
  | ends hAlive => exact h.ends hAlive
  | panics =>
    exact h.stays line.arrived rfl rfl fun channel hCalls =>
      ⟨channel, (h.serving channel hCalls).fewer (.refl channel) hCalls rfl rfl⟩

theorem Step.length_le {next : DeviceLine} (h : Step line next) :
    line.calls.length ≤ next.calls.length := by
  cases h <;> simp

theorem Leads.length_le {next : DeviceLine} (h : Leads line next) :
    line.calls.length ≤ next.calls.length := by
  induction h with
  | refl => exact Nat.le_refl _
  | tail _ hStep ih => exact Nat.le_trans ih hStep.length_le

theorem Sound.leads {next : DeviceLine} (h : line.Sound) (hLeads : Leads line next)
    (hLength : next.calls.length < 2 ^ 32) : next.Sound := by
  induction hLeads with
  | refl => exact h
  | tail _ hStep ih =>
    have hBefore := Nat.lt_of_le_of_lt hStep.length_le hLength
    exact (ih hBefore).step hBefore hStep

/-- A call that comes back with a reply of the device has its own answer or that of a call of an
earlier period with its number, which was still to come when its period began. So it has its own if
the device had nothing more to say then. How it comes back is how the channel finishes it. -/
theorem Leads.replies_own_or_stale {address : LinkAddress} {settings : TransportSettings}
    {media : Media} (hLeads : Leads (start address settings media) line)
    (hLength : line.calls.length < 2 ^ 32) {place : Nat} {call : LineCall} {reply : Reply}
    (hCall : line.calls[place]? = some call) (hOutcome : call.outcome = some (.answered reply)) :
    line.Answered place call reply ∧
      (call.stale = [] → ∃ answer ∈ line.answered, answer.place = place ∧ answer.reply = reply) ∧
      ∀ channel : CallChannel,
        (channel.finish settings.call call.id call.service call.method).1 =
          (channel.ending call.id).outcome settings.call call.service call.method := by
  have hSound := (sound_start address settings media).leads hLeads hLength
  have hAnswered := hSound.replies place call reply hCall hOutcome
  refine ⟨hAnswered, fun hNone => ?_, fun channel => channel.finish_ending _ _ _ _⟩
  obtain ⟨answer, hAnswer, -, hReply, hOwn | hStale⟩ := hAnswered
  · exact ⟨answer, hAnswer, hOwn, hReply⟩
  · rw [hNone] at hStale
    cases hStale

theorem Step.asks {channel begun : CallChannel} {service method : String} {kwargs : Value}
    {id : UInt32} {request : List UInt8} (hCalls : line.transport.calls = some channel)
    (hBegin : channel.begin service method kwargs = .ok (id, request, begun))
    (hFits : request.length ≤ Frame.defaultMaxPayload) :
    Step line { line with
      transport := { line.transport with calls := some begun }
      calls := line.calls ++ [⟨id, service, method, line.stale, none⟩]
      owed := line.owed ++ [line.calls.length] } := by
  have hStep := Step.calls hCalls hBegin (Transport.beginCall_sent hCalls hBegin hFits)
  rw [if_pos rfl] at hStep
  exact hStep

theorem Leads.hear {settings : TransportSettings} {channel : CallChannel}
    (hServes : line.transport.Serves settings channel)
    (hDecoder : line.transport.decoder = .new settings.worker.maxPayload)
    (hComing : line.coming = []) (hTorn : line.torn = []) (hArrived : line.arrived = [])
    {place : Nat} {call : LineCall} (hOwed : place ∈ line.owed)
    (hCall : line.calls[place]? = some call) (reply : Reply)
    (hFits : (LineAnswer.message ⟨place, call.id, reply⟩).2.length ≤ settings.worker.maxPayload) :
    ∃ transport, transport.calls = some (channel.resolve call.id reply) ∧
      Leads line { line with
        transport
        owed := line.owed.erase place
        answered := line.answered ++ [⟨place, call.id, reply⟩]
        coming := []
        torn := []
        arrived := [] } := by
  generalize hAnswer : (⟨place, call.id, reply⟩ : LineAnswer) = answer at hFits ⊢
  have hAnswers : Step line _ := .answers hOwed hCall reply
  have hArrives := @Step.arrives { line with
      owed := line.owed.erase place
      answered := line.answered ++ [answer]
      coming := line.coming ++ [answer] } answer []
    (Frame.encode answer.message.1 answer.message.2) [] hTorn (by rw [hComing]; rfl)
    (List.cons_ne_nil _ _) (List.append_nil _).symm
  have hReads := @Step.reads { line with
      owed := line.owed.erase place
      answered := line.answered ++ [answer]
      coming := []
      torn := []
      arrived := line.arrived ++ Frame.encode answer.message.1 answer.message.2 }
    (Frame.encode answer.message.1 answer.message.2) []
    (Bool.and_eq_true_iff.mp hServes.isOpen).2 (by rw [hArrived, List.append_nil]; rfl)
  rw [hAnswer] at hAnswers
  have hFrames := ((Frame.Decoder.carries_new settings.worker.maxPayload).send answer.message.1
    answer.message.2).frames
  rw [List.nil_append, List.nil_append, Frame.accepted_of_le _ hFits, ← hDecoder] at hFrames
  obtain ⟨hReceived, -⟩ :=
    hServes.receive (Frame.encode answer.message.1 answer.message.2)
  have hHandled : channel.handleAll
      (line.transport.decoder.feed (Frame.encode answer.message.1 answer.message.2)).2 =
        channel.resolve call.id reply := by
    have hResponse : Frame.response? ⟨answer.message.1, answer.message.2, true⟩ =
        some (call.id, reply) := by
      rw [← hAnswer]
      exact LineAnswer.response?_frame ⟨place, call.id, reply⟩
    rw [hFrames]
    change channel.handle _ = _
    rw [CallChannel.handle_eq, hResponse]
  refine ⟨_, ?_, ((Relation.ReflTransGen.single hAnswers).tail hArrives).tail hReads⟩
  rw [hReceived.calls, hHandled]

theorem begin_ask : CallChannel.new.begin "Line" "Ask" .null =
    .ok (0, (Packet.request 0 "Line" "Ask" []).encode, CallChannel.new.enter) := rfl

theorem request_fits :
    (Packet.request 0 "Line" "Ask" []).encode.length ≤ Frame.defaultMaxPayload := by
  rw [Packet.encode, Utf8.bytes_eq]
  decide +kernel

theorem answer_fits :
    (LineAnswer.message ⟨0, 0, ⟨true, [7]⟩⟩).2.length ≤ Frame.defaultMaxPayload := by
  rw [LineAnswer.message, Packet.encode, Utf8.bytes_eq]
  decide +kernel

/-- A call of the first period is answered, so there is nothing stale that it could have got. -/
theorem own_answer_returned :
    ∃ line call, Leads (start (.serial "line" 115200) .usual .all) line ∧
      line.calls = [call] ∧ call.outcome = some (.answered ⟨true, [7]⟩) ∧
      line.Answered 0 call ⟨true, [7]⟩ ∧
      ∃ answer ∈ line.answered, answer.place = 0 ∧ answer.reply = ⟨true, [7]⟩ := by
  let opened := Transport.openedAt (.serial "line" 115200)
  let begun := CallChannel.new.enter
  let asked : DeviceLine := ⟨{ opened with calls := some begun },
    [⟨0, "Line", "Ask", [], none⟩], 0, [], [0], [], [], [], []⟩
  have hOpen := Transport.openLink_favourable (.serial "line" 115200)
  have hOpened : Leads (start (.serial "line" 115200) .usual .all) _ := .single (.opens hOpen)
  have hAsked : Leads (start (.serial "line" 115200) .usual .all) asked :=
    hOpened.tail (.asks rfl begin_ask request_fits)
  obtain ⟨hServes, hDecoder⟩ := Transport.serves_of_openLink hOpen
  obtain ⟨after, hAfter, hHeard⟩ := @Leads.hear asked _ begun (hServes.withCalls begun) hDecoder
    rfl rfl rfl 0 _ (by decide) rfl ⟨true, [7]⟩ answer_fits
  have hReturned := (hAsked.trans hHeard).tail
    (@Step.comesBack _ 0 _ (begun.resolve 0 ⟨true, [7]⟩) rfl (Nat.le_refl 0) rfl hAfter)
  obtain ⟨hAnswered, hOwn, -⟩ := @Leads.replies_own_or_stale _ _ _ _ hReturned
    (show 1 < 2 ^ 32 by decide) 0 _ ⟨true, [7]⟩ rfl rfl
  exact ⟨_, _, hReturned, rfl, rfl, hAnswered, hOwn rfl⟩

/-- A call is not answered in time. After the line was closed and opened, its answer comes and is
taken for that of the next call, which the device has not answered. -/
theorem stale_answer_returned :
    ∃ line call, Leads (start (.serial "line" 115200) .usual .all) line ∧
      line.calls.length < 2 ^ 32 ∧ line.calls[1]? = some call ∧
      call.outcome = some (.answered ⟨true, [7]⟩) ∧
      ∀ answer ∈ line.answered, answer.place ≠ 1 := by
  let opened := Transport.openedAt (.serial "line" 115200)
  let begun := CallChannel.new.enter
  let asking := { opened with calls := some begun }
  let closed := ((asking.finishCall 0 "Line" "Ask").2.closeLink ⟨.finishes, .ok ()⟩).2.1
  let reopened := (closed.openLink Transport.favourable).2.1
  let asked : DeviceLine := ⟨{ reopened with calls := some begun },
    [⟨0, "Line", "Ask", [], some .timedOut⟩, ⟨0, "Line", "Ask", [0], none⟩], 1, [0], [0, 1],
    [], [], [], []⟩
  have hOpen := Transport.openLink_favourable (.serial "line" 115200)
  have hReopen : closed.openLink Transport.favourable = (.ok (), reopened, [.acquire, .lock]) := rfl
  have hOpened : Leads (start (.serial "line" 115200) .usual .all) _ := .single (.opens hOpen)
  have hAsked := hOpened.tail (.asks rfl begin_ask request_fits)
  have hGivenUp := hAsked.tail (@Step.comesBack _ 0 _ begun rfl (Nat.le_refl 0) rfl rfl)
  have hClosed := hGivenUp.tail (.closes _ ⟨.finishes, .ok ()⟩)
  have hReopened := hClosed.tail (.opens hReopen)
  have hAskedAgain : Leads (start (.serial "line" 115200) .usual .all) asked :=
    hReopened.tail (.asks rfl begin_ask request_fits)
  obtain ⟨hServes, hDecoder⟩ := Transport.serves_of_openLink hReopen
  obtain ⟨after, hAfter, hHeard⟩ := @Leads.hear asked _ begun (hServes.withCalls begun) hDecoder
    rfl rfl rfl 0 _ (by decide) rfl ⟨true, [7]⟩ answer_fits
  have hReturned := (hAskedAgain.trans hHeard).tail
    (@Step.comesBack _ 1 _ (begun.resolve 0 ⟨true, [7]⟩) rfl (Nat.le_refl 1) rfl hAfter)
  refine ⟨_, _, hReturned, show 2 < 2 ^ 32 by decide, rfl, rfl, fun answer hAnswer => ?_⟩
  obtain rfl := List.mem_singleton.mp hAnswer
  exact nofun

end DeviceLine

end DeviceRig
