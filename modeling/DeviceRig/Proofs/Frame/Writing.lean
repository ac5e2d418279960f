import DeviceRig.Frame.Writer
import DeviceRig.Proofs.Frame.Delivery

/-!
# Frames on an unreliable stream

Whatever writes and flushes meet, a call puts a first part of its own bytes on
the stream, and all of them if it succeeds. A torn frame or raw bytes before a
frame cannot reach into it, since its first flag starts anew, so the decoder
finds every frame that was sent with success.
-/
namespace DeviceRig

/-- Whether a failure is over when the operation is tried again. -/
def Fault.IsPassing (fault : Fault) : Prop :=
  fault.kind = .interrupted ∨ fault.kind = .wouldBlock

theorem Fault.isRetried_iff {fault : Fault} : fault.isRetried = true ↔ fault.IsPassing := by
  rw [isRetried, Bool.or_eq_true, decide_eq_true_iff, decide_eq_true_iff, IsPassing]

theorem Fault.isRetried_eq_false_iff {fault : Fault} :
    fault.isRetried = false ↔ ¬fault.IsPassing := by
  rw [← Bool.not_eq_true, isRetried_iff]

namespace Frame

def WriteEvent.most : WriteEvent → Nat
  | .accept most => most
  | .fault _ => 0

def WriteEvent.Takes : WriteEvent → Prop
  | .accept most => most ≠ 0
  | .fault cause => cause.IsPassing

def FlushEvent.Retries : FlushEvent → Prop
  | .done => False
  | .fault cause => cause.IsPassing

namespace Writer

inductive Sending where
  | message (address : UInt8) (payload : List UInt8)
  | frame (frame : Frame)
  | raw (bytes : List UInt8)

def Sending.message? : Sending → Option Message
  | .message address payload => some (address, payload)
  | .frame sent => some (sent.address, sent.payload)
  | .raw _ => none

def Sending.bytes : Sending → List UInt8
  | .message address payload => encode address payload
  | .frame sent => encode sent.address sent.payload
  | .raw bytes => bytes

def perform (writer : Writer) : Sending → Answer
  | .message address payload => writer.send address payload
  | .frame sent => writer.writeFrame sent
  | .raw bytes => writer.sendRaw bytes

/-- What the writes and flushes to come will meet. -/
structure Stream where
  writes : List WriteEvent
  flushes : List FlushEvent

def stream (writer : Writer) : Stream :=
  ⟨writer.writes, writer.flushes⟩

/-- A call with its outcome, the bytes that reached the stream in it, and what was to come before it
and after it. -/
structure Sent where
  sending : Sending
  outcome : Except FrameError Unit
  bytes : List UInt8
  before : Stream
  after : Stream

def performAll (writer : Writer) : List Sending → List Sent
  | [] => []
  | sending :: rest =>
    let (outcome, bytes, after) := writer.perform sending
    ⟨sending, outcome, bytes, writer.stream, after.stream⟩ :: after.performAll rest

/-- Whether each call has met what the ones before it have left. -/
def Chained : Stream → List Sent → Prop
  | _, [] => True
  | stream, sent :: rest => sent.before = stream ∧ Chained sent.after rest

def wire (sent : List Sent) : List UInt8 :=
  sent.flatMap Sent.bytes

def Sent.frame? (sent : Sent) : Option Frame :=
  match sent.outcome with
  | .ok () => sent.sending.message?.map fun message => ⟨message.1, message.2, true⟩
  | .error _ => none

def most : List WriteEvent → Nat
  | [] => 0
  | event :: met => event.most + most met

/-- What has become of bytes that were to be put on a stream, by the writes that were met. No write
is made once all bytes are out. -/
inductive Puts (bytes : List UInt8) (writes left : List WriteEvent) :
    List UInt8 → Except FrameError Unit → Prop
  | whole (met : List WriteEvent) (split : writes = met ++ left)
      (takes : ∀ event ∈ met, event.Takes)
      (needed : met ≠ [] → most met.dropLast < bytes.length)
      (enough : bytes.length ≤ most met ∨ left = []) : Puts bytes writes left bytes (.ok ())
  | closed (met : List WriteEvent) (split : writes = met ++ .accept 0 :: left)
      (takes : ∀ event ∈ met, event.Takes) (needed : most met < bytes.length) :
      Puts bytes writes left (bytes.take (most met)) (.error .closed)
  | refused (met : List WriteEvent) (fault : Fault) (split : writes = met ++ .fault fault :: left)
      (takes : ∀ event ∈ met, event.Takes) (needed : most met < bytes.length)
      (final : ¬fault.IsPassing) :
      Puts bytes writes left (bytes.take (most met)) (.error (.stream fault))

inductive Settled (flushes left : List FlushEvent) : Except FrameError Unit → Prop
  | done (met : List FlushEvent) (split : flushes = met ++ .done :: left)
      (retries : ∀ event ∈ met, event.Retries) : Settled flushes left (.ok ())
  | exhausted (retries : ∀ event ∈ flushes, event.Retries) (spent : left = []) :
      Settled flushes left (.ok ())
  | refused (met : List FlushEvent) (fault : Fault) (split : flushes = met ++ .fault fault :: left)
      (retries : ∀ event ∈ met, event.Retries) (final : ¬fault.IsPassing) :
      Settled flushes left (.error (.stream fault))

/-- How putting bytes on a stream ends: they are all there and a flush decides, or a write has
failed for good and there is no flush. -/
inductive Ends (bytes : List UInt8) (before after : Stream) :
    List UInt8 → Except FrameError Unit → Prop
  | flushed {outcome : Except FrameError Unit}
      (puts : Puts bytes before.writes after.writes bytes (.ok ()))
      (settled : Settled before.flushes after.flushes outcome) :
      Ends bytes before after bytes outcome
  | stopped {got : List UInt8} {error : FrameError}
      (puts : Puts bytes before.writes after.writes got (.error error))
      (unflushed : after.flushes = before.flushes) : Ends bytes before after got (.error error)

theorem puts_none (writes : List WriteEvent) : Puts [] writes writes [] (.ok ()) :=
  .whole [] rfl (List.forall_mem_nil _) (absurd rfl) (.inl (Nat.le_refl 0))

theorem puts_over (bytes : List UInt8) : Puts bytes [] [] bytes (.ok ()) :=
  .whole [] rfl (List.forall_mem_nil _) (absurd rfl) (.inr rfl)

theorem Puts.cons {bytes got : List UInt8} {writes left : List WriteEvent}
    {outcome : Except FrameError Unit} (event : WriteEvent) (hBytes : bytes ≠ [])
    (hTakes : event.Takes)
    (h : Puts (bytes.drop event.most) writes left got outcome) :
    Puts bytes (event :: writes) left (bytes.take event.most ++ got) outcome := by
  have hAll {met : List WriteEvent} (takes : ∀ one ∈ met, one.Takes) :
      ∀ one ∈ event :: met, one.Takes := List.forall_mem_cons.mpr ⟨hTakes, takes⟩
  have hNeeded {met : List WriteEvent} (needed : most met < (bytes.drop event.most).length) :
      most (event :: met) < bytes.length := by
    rw [List.length_drop] at needed
    rw [most]
    omega
  cases h with
  | whole met split takes needed enough =>
    rw [List.take_append_drop]
    refine .whole (event :: met) (congrArg (List.cons event) split) (hAll takes) (fun _ => ?_) ?_
    · cases met with
      | nil => exact List.length_pos_iff.mpr hBytes
      | cons next met => exact hNeeded (needed (List.cons_ne_nil _ _))
    · refine enough.imp_left fun hLength => ?_
      rw [List.length_drop] at hLength
      rw [most]
      omega
  | closed met split takes needed =>
    rw [← List.take_add]
    exact .closed (event :: met) (congrArg (List.cons event) split) (hAll takes) (hNeeded needed)
  | refused met fault split takes needed final =>
    rw [← List.take_add]
    exact .refused (event :: met) fault (congrArg (List.cons event) split) (hAll takes)
      (hNeeded needed) final

theorem puts_put (bytes sent : List UInt8) (events : List WriteEvent) :
    ∃ got, (put bytes sent events).2.1 = sent ++ got ∧
      Puts bytes events (put bytes sent events).2.2 got (put bytes sent events).1 := by
  induction events generalizing bytes sent with
  | nil => exact ⟨bytes, rfl, puts_over bytes⟩
  | cons event rest ih =>
    rw [put.eq_def]
    dsimp only
    by_cases hEmpty : bytes.isEmpty = true
    · rw [if_pos hEmpty, List.isEmpty_iff.mp hEmpty]
      exact ⟨[], (List.append_nil sent).symm, puts_none _⟩
    · rw [if_neg hEmpty]
      have hBytes : bytes ≠ [] := fun h => hEmpty (List.isEmpty_iff.mpr h)
      have hLeft : most [] < bytes.length := List.length_pos_iff.mpr hBytes
      cases event with
      | accept most =>
        cases most with
        | zero =>
          exact ⟨[], (List.append_nil sent).symm, .closed [] rfl (List.forall_mem_nil _) hLeft⟩
        | succ most =>
          obtain ⟨got, hGot, hPuts⟩ := ih (bytes.drop (most + 1)) (sent ++ bytes.take (most + 1))
          rw [List.append_assoc] at hGot
          exact ⟨_, hGot, hPuts.cons (.accept (most + 1)) hBytes (Nat.succ_ne_zero most)⟩
      | fault fault =>
        dsimp only
        cases hRetried : fault.isRetried with
        | true =>
          obtain ⟨got, hGot, hPuts⟩ := ih bytes sent
          rw [if_pos rfl]
          exact ⟨got, hGot, hPuts.cons (.fault fault) hBytes (Fault.isRetried_iff.mp hRetried)⟩
        | false =>
          rw [if_neg (by decide)]
          exact ⟨[], (List.append_nil sent).symm,
            .refused [] fault rfl (List.forall_mem_nil _) hLeft
              (Fault.isRetried_eq_false_iff.mp hRetried)⟩

theorem Settled.cons {flushes left : List FlushEvent} {event : FlushEvent}
    {outcome : Except FrameError Unit} (hEvent : event.Retries)
    (h : Settled flushes left outcome) : Settled (event :: flushes) left outcome := by
  have hAll {met : List FlushEvent} (retries : ∀ one ∈ met, one.Retries) :
      ∀ one ∈ event :: met, one.Retries := List.forall_mem_cons.mpr ⟨hEvent, retries⟩
  cases h with
  | done met split retries =>
    exact .done (event :: met) (congrArg (List.cons event) split) (hAll retries)
  | exhausted retries spent => exact .exhausted (hAll retries) spent
  | refused met fault split retries final =>
    exact .refused (event :: met) fault (congrArg (List.cons event) split) (hAll retries) final

theorem settled_settle (events : List FlushEvent) :
    Settled events (settle events).2 (settle events).1 := by
  induction events with
  | nil => exact .exhausted (List.forall_mem_nil _) rfl
  | cons event rest ih =>
    cases event with
    | done => exact .done [] rfl (List.forall_mem_nil _)
    | fault fault =>
      rw [settle]
      cases hRetried : fault.isRetried with
      | true =>
        rw [if_pos rfl]
        exact ih.cons (Fault.isRetried_iff.mp hRetried)
      | false =>
        rw [if_neg (by decide)]
        exact .refused [] fault rfl (List.forall_mem_nil _)
          (Fault.isRetried_eq_false_iff.mp hRetried)

theorem ends_writeBuffer (writer : Writer) :
    Ends writer.buffer writer.stream writer.writeBuffer.2.2.stream writer.writeBuffer.2.1
      writer.writeBuffer.1 := by
  obtain ⟨got, hGot, hPuts⟩ := puts_put writer.buffer [] writer.writes
  rw [List.nil_append] at hGot
  unfold writeBuffer
  rcases hPut : put writer.buffer [] writer.writes with ⟨outcome, sent, writes⟩
  rw [hPut] at hGot hPuts
  subst hGot
  cases outcome with
  | error error => exact .stopped hPuts rfl
  | ok done =>
    have hWhole : sent = writer.buffer := by
      cases hPuts
      rfl
    subst hWhole
    exact .flushed hPuts (settled_settle writer.flushes)

theorem Ends.whole {bytes got : List UInt8} {before after : Stream}
    (h : Ends bytes before after got (.ok ())) : got = bytes := by
  cases h
  rfl

def Sending.Fits (sending : Sending) (maxPayload : Nat) : Prop :=
  ∀ message, sending.message? = some message → message.2.length ≤ maxPayload

theorem Sending.fits_or (sending : Sending) (maxPayload : Nat) :
    sending.Fits maxPayload ∨
      ∃ message, sending.message? = some message ∧ maxPayload < message.2.length := by
  unfold Fits
  cases sending.message? with
  | none => exact .inl nofun
  | some message =>
    rcases Nat.lt_or_ge maxPayload message.2.length with hLong | hFits
    · exact .inr ⟨message, rfl, hLong⟩
    · exact .inl fun other hOther => Option.some.inj hOther ▸ hFits

/-- How a call ends: a message above the limit is turned away without a write, and all others are
put on the stream. -/
structure Sent.Lawful (maxPayload : Nat) (sent : Sent) : Prop where
  tooLarge : ∀ message, sent.sending.message? = some message → maxPayload < message.2.length →
    sent.outcome = .error (.payloadTooLarge message.2.length maxPayload) ∧ sent.bytes = [] ∧
      sent.after = sent.before
  fits : sent.sending.Fits maxPayload →
    Ends sent.sending.bytes sent.before sent.after sent.bytes sent.outcome

theorem send_of_lt {writer : Writer} {payload : List UInt8}
    (hLong : writer.maxPayload < payload.length) (address : UInt8) :
    writer.send address payload =
      (.error (.payloadTooLarge payload.length writer.maxPayload), [], writer) :=
  if_pos hLong

theorem send_of_le {writer : Writer} {payload : List UInt8}
    (hFits : payload.length ≤ writer.maxPayload) (address : UInt8) :
    writer.send address payload = writer.sendRaw (encode address payload) :=
  if_neg (Nat.not_lt.mpr hFits)

theorem ends_sendRaw (writer : Writer) (bytes : List UInt8) :
    Ends bytes writer.stream (writer.sendRaw bytes).2.2.stream (writer.sendRaw bytes).2.1
      (writer.sendRaw bytes).1 :=
  ends_writeBuffer (writer.clear.append bytes)

theorem perform_eq (writer : Writer) (sending : Sending) :
    writer.perform sending =
      match sending.message? with
      | some message => writer.send message.1 message.2
      | none => writer.sendRaw sending.bytes := by
  cases sending <;> rfl

theorem Sending.bytes_of_message {sending : Sending} {message : Message}
    (h : sending.message? = some message) : sending.bytes = encode message.1 message.2 := by
  cases sending with
  | message address payload =>
    cases h
    rfl
  | frame sent =>
    cases h
    rfl
  | raw bytes => cases h

theorem lawful_perform (writer : Writer) (sending : Sending) :
    Sent.Lawful writer.maxPayload
      ⟨sending, (writer.perform sending).1, (writer.perform sending).2.1, writer.stream,
        (writer.perform sending).2.2.stream⟩ := by
  rw [perform_eq]
  cases hMessage : sending.message? with
  | none =>
    refine ⟨fun message h => ?_, fun _ => ends_sendRaw writer sending.bytes⟩
    rw [hMessage] at h
    cases h
  | some message =>
    dsimp only
    constructor
    · intro other hOther hLong
      rw [hMessage] at hOther
      cases hOther
      rw [send_of_lt hLong]
      exact ⟨rfl, rfl, rfl⟩
    · intro hFits
      rw [send_of_le (hFits message hMessage), ← Sending.bytes_of_message hMessage]
      exact ends_sendRaw writer sending.bytes

theorem maxPayload_writeBuffer (writer : Writer) :
    writer.writeBuffer.2.2.maxPayload = writer.maxPayload := by
  unfold writeBuffer
  split <;> rfl

theorem maxPayload_perform (writer : Writer) (sending : Sending) :
    (writer.perform sending).2.2.maxPayload = writer.maxPayload := by
  rw [perform_eq]
  cases sending.message? with
  | none => exact maxPayload_writeBuffer _
  | some message =>
    dsimp only
    rcases Nat.lt_or_ge writer.maxPayload message.2.length with hLong | hFits
    · rw [send_of_lt hLong]
    · rw [send_of_le hFits]
      exact maxPayload_writeBuffer _

theorem lawful_performAll (writer : Writer) (sendings : List Sending) :
    ∀ sent ∈ writer.performAll sendings, sent.Lawful writer.maxPayload := by
  induction sendings generalizing writer with
  | nil => exact List.forall_mem_nil _
  | cons sending rest ih =>
    refine List.forall_mem_cons.mpr ⟨lawful_perform writer sending, ?_⟩
    rw [← maxPayload_perform writer sending]
    exact ih _

theorem perform_withBuffer (writer : Writer) (buffer : List UInt8) (sending : Sending) :
    ∃ left, perform { writer with buffer } sending =
      ((writer.perform sending).1, (writer.perform sending).2.1,
        { (writer.perform sending).2.2 with buffer := left }) := by
  rw [perform_eq, perform_eq]
  cases sending.message? with
  | none => exact ⟨_, rfl⟩
  | some message =>
    dsimp only
    rcases Nat.lt_or_ge writer.maxPayload message.2.length with hLong | hFits
    · rw [send_of_lt hLong, @send_of_lt { writer with buffer } _ hLong]
      exact ⟨buffer, rfl⟩
    · rw [send_of_le hFits, @send_of_le { writer with buffer } _ hFits]
      exact ⟨_, rfl⟩

theorem performAll_withBuffer (writer : Writer) (buffer : List UInt8) (sendings : List Sending) :
    performAll { writer with buffer } sendings = writer.performAll sendings := by
  induction sendings generalizing writer buffer with
  | nil => rfl
  | cons sending rest ih =>
    obtain ⟨left, hPerform⟩ := perform_withBuffer writer buffer sending
    rw [performAll, hPerform, performAll]
    exact congrArg _ (ih _ left)

theorem map_sending_performAll (writer : Writer) (sendings : List Sending) :
    (writer.performAll sendings).map Sent.sending = sendings := by
  induction sendings generalizing writer with
  | nil => rfl
  | cons sending rest ih =>
    rw [performAll, List.map_cons, ih]

theorem chained_performAll (writer : Writer) (sendings : List Sending) :
    Chained writer.stream (writer.performAll sendings) := by
  induction sendings generalizing writer with
  | nil => trivial
  | cons sending rest ih => exact ⟨rfl, ih _⟩

/-- A call that has sent a frame has put all of it on the stream, and it is within the limit. -/
theorem Sent.Lawful.frame {maxPayload : Nat} {sent : Sent} (h : sent.Lawful maxPayload)
    {frame : Frame} (hFrame : sent.frame? = some frame) :
    frame.valid = true ∧ frame.payload.length ≤ maxPayload ∧
      sent.bytes = encode frame.address frame.payload := by
  obtain ⟨sending, outcome, bytes, before, after⟩ := sent
  cases outcome with
  | error error => cases hFrame
  | ok done =>
    obtain ⟨message, hMessage, rfl⟩ := Option.map_eq_some_iff.mp hFrame
    have hFits : message.2.length ≤ maxPayload := by
      refine Nat.le_of_not_lt fun hLong => ?_
      cases (h.tooLarge message hMessage hLong).1
    refine ⟨rfl, hFits, ?_⟩
    have hWhole := (h.fits fun other hOther => ?_).whole
    · rw [Sending.bytes_of_message hMessage] at hWhole
      exact hWhole
    · rw [hMessage] at hOther
      cases hOther
      exact hFits

/-- Whatever the decoder has come from, it finds the frames that were sent with success. -/
theorem frames_sublist_walk {maxPayload : Nat} {sent : List Sent}
    (hLawful : ∀ one ∈ sent, one.Lawful maxPayload) (phase : Phase) :
    (sent.filterMap Sent.frame?).Sublist
      (Decoder.walk (maxPayload + overhead) phase (wire sent)).2 := by
  induction sent generalizing phase with
  | nil => exact List.nil_sublist _
  | cons one rest ih =>
    obtain ⟨hOne, hRest⟩ := List.forall_mem_cons.mp hLawful
    have hWire : wire (one :: rest) = one.bytes ++ wire rest := rfl
    rw [hWire, Decoder.walk_append]
    cases hFrame : one.frame? with
    | none =>
      rw [List.filterMap_cons_none hFrame]
      exact (ih hRest _).trans (List.sublist_append_right _ _)
    | some frame =>
      obtain ⟨hValid, hFits, hBytes⟩ := hOne.frame hFrame
      have hFound := Decoder.walk_garbage maxPayload phase [] [(frame.address, frame.payload)]
        (List.cons_ne_nil _ _)
      have hAccepted : accepted maxPayload [(frame.address, frame.payload)] = [frame] := by
        rw [accepted_of_le frame.address hFits, ← hValid]
      rw [hAccepted, List.nil_append] at hFound
      have hOwn : one.bytes = encodeAll [(frame.address, frame.payload)] := by
        rw [hBytes, encodeAll, List.flatMap_singleton]
      rw [List.filterMap_cons_some hFrame, hOwn, hFound]
      exact List.Sublist.append (List.sublist_append_right _ [frame]) (ih hRest _)

structure Stream.Willing (stream : Stream) : Prop where
  writes : ∀ event ∈ stream.writes, event.Takes
  flushes : ∀ event ∈ stream.flushes, event = .done ∨ event.Retries

theorem willing_new (maxPayload : Nat) : (new maxPayload [] []).stream.Willing :=
  ⟨List.forall_mem_nil _, List.forall_mem_nil _⟩

theorem Settled.of_willing {flushes left : List FlushEvent} {outcome : Except FrameError Unit}
    (h : Settled flushes left outcome) (hAll : ∀ event ∈ flushes, event = .done ∨ event.Retries) :
    outcome = .ok () ∧ ∀ event ∈ left, event = .done ∨ event.Retries := by
  cases h with
  | done met split retries =>
    rw [split, List.forall_mem_append, List.forall_mem_cons] at hAll
    exact ⟨rfl, hAll.2.2⟩
  | exhausted retries spent =>
    rw [spent]
    exact ⟨rfl, List.forall_mem_nil _⟩
  | refused met fault split retries final =>
    rw [split, List.forall_mem_append, List.forall_mem_cons] at hAll
    obtain hDone | hRetried := hAll.2.1
    · cases hDone
    · exact absurd hRetried final

theorem Puts.of_willing {bytes got : List UInt8} {writes left : List WriteEvent}
    {outcome : Except FrameError Unit} (h : Puts bytes writes left got outcome)
    (hAll : ∀ event ∈ writes, event.Takes) :
    outcome = .ok () ∧ ∀ event ∈ left, event.Takes := by
  cases h with
  | whole met split takes needed enough =>
    rw [split, List.forall_mem_append] at hAll
    exact ⟨rfl, hAll.2⟩
  | closed met split takes needed =>
    rw [split, List.forall_mem_append, List.forall_mem_cons] at hAll
    exact absurd rfl hAll.2.1
  | refused met fault split takes needed final =>
    rw [split, List.forall_mem_append, List.forall_mem_cons] at hAll
    exact absurd hAll.2.1 final

theorem Ends.of_willing {bytes got : List UInt8} {before after : Stream}
    {outcome : Except FrameError Unit} (h : Ends bytes before after got outcome)
    (hWilling : before.Willing) : outcome = .ok () ∧ after.Willing := by
  cases h with
  | flushed puts settled =>
    obtain ⟨hOutcome, hFlushes⟩ := settled.of_willing hWilling.flushes
    exact ⟨hOutcome, (puts.of_willing hWilling.writes).2, hFlushes⟩
  | stopped puts unflushed => cases (puts.of_willing hWilling.writes).1

theorem Sent.Lawful.willing {maxPayload : Nat} {sent : Sent} (h : sent.Lawful maxPayload)
    (hWilling : sent.before.Willing) : sent.after.Willing := by
  obtain hFits | ⟨message, hMessage, hLong⟩ := sent.sending.fits_or maxPayload
  · exact ((h.fits hFits).of_willing hWilling).2
  · rw [(h.tooLarge message hMessage hLong).2.2]
    exact hWilling

theorem Chained.willing {maxPayload : Nat} {stream : Stream} {sent : List Sent}
    (h : Chained stream sent) (hLawful : ∀ one ∈ sent, one.Lawful maxPayload)
    (hWilling : stream.Willing) : ∀ one ∈ sent, one.before.Willing := by
  induction sent generalizing stream with
  | nil => exact List.forall_mem_nil _
  | cons one rest ih =>
    obtain ⟨hBefore, hChained⟩ := h
    obtain ⟨hOne, hRest⟩ := List.forall_mem_cons.mp hLawful
    rw [← hBefore] at hWilling
    exact List.forall_mem_cons.mpr ⟨hWilling, ih hChained hRest (hOne.willing hWilling)⟩

/-- Calls over an unreliable stream. Each one ends as the writes and flushes say that it meets, in
the order of the script, and has put nothing but a part of its own bytes on the stream, no matter
what an earlier one has left in the buffer; where nothing final comes, all that is within the limit
is sent. A decoder of the same limit finds in all that got there the frames that were sent with
success, in order. -/
theorem performAll_delivers (writer : Writer) (sendings : List Sending) :
    (writer.performAll sendings).map Sent.sending = sendings ∧
      Chained writer.stream (writer.performAll sendings) ∧
      (∀ sent ∈ writer.performAll sendings, sent.Lawful writer.maxPayload) ∧
      (writer.stream.Willing → ∀ sent ∈ writer.performAll sendings,
        sent.sending.Fits writer.maxPayload → sent.outcome = .ok ()) ∧
      (∀ buffer, performAll { writer with buffer } sendings = writer.performAll sendings) ∧
      ((writer.performAll sendings).filterMap Sent.frame?).Sublist
        ((Decoder.new writer.maxPayload).feed (wire (writer.performAll sendings))).2 := by
  have hLawful := lawful_performAll writer sendings
  have hChained := chained_performAll writer sendings
  refine ⟨map_sending_performAll writer sendings, hChained, hLawful,
    fun hWilling sent hSent hFits => ?_,
    fun buffer => performAll_withBuffer writer buffer sendings, ?_⟩
  · have hBefore := hChained.willing hLawful hWilling sent hSent
    exact (((hLawful sent hSent).fits hFits).of_willing hBefore).1
  · rw [Decoder.feed_eq_walk]
    exact frames_sublist_walk hLawful _

theorem Stream.Willing.send {writer : Writer} (h : writer.stream.Willing) (address : UInt8)
    {payload : List UInt8} (hFits : payload.length ≤ writer.maxPayload) :
    ∃ after, writer.send address payload = (.ok (), encode address payload, after) ∧
      after.stream.Willing ∧ after.maxPayload = writer.maxPayload := by
  have hEnds := ends_sendRaw writer (encode address payload)
  obtain ⟨hOutcome, hWilling⟩ := hEnds.of_willing h
  rw [hOutcome] at hEnds
  refine ⟨(writer.sendRaw (encode address payload)).2.2, ?_, hWilling, maxPayload_writeBuffer _⟩
  rw [send_of_le hFits]
  exact Prod.ext hOutcome (Prod.ext hEnds.whole rfl)

end Writer

end Frame

end DeviceRig
