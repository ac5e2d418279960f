import DeviceRig.Proofs.Transport.Operations

/-!
# What a transport makes of its bytes

An open transport hands the valid frames on the call channel to its table of
calls, in order, whatever else comes between them.
-/
namespace DeviceRig

/-- What the frames that reach the worker do to the table of calls. -/
def CallChannel.handleAll (channel : CallChannel) (frames : List Frame) : CallChannel :=
  (frames.filter fun frame => frame.valid && frame.address = Frame.callAddress).foldl handle channel

theorem CallChannel.handleAll_cons (channel : CallChannel) (frame : Frame) (frames : List Frame) :
    channel.handleAll (frame :: frames) = (channel.handleAll [frame]).handleAll frames := by
  unfold CallChannel.handleAll
  rw [← List.foldl_append, ← List.filter_append]
  rfl

def LogSink.handleAll (sink : LogSink) (frames : List Frame) : LogSink :=
  (frames.filter fun frame => frame.valid && frame.address = Frame.logAddress).foldl handle sink

theorem LogSink.handleAll_cons (sink : LogSink) (frame : Frame) (frames : List Frame) :
    sink.handleAll (frame :: frames) = (sink.handleAll [frame]).handleAll frames := by
  unfold LogSink.handleAll
  rw [← List.foldl_append, ← List.filter_append]
  rfl

namespace LogSink

def chunksOf (frames : List Frame) : List (List UInt8) :=
  (frames.filter fun frame => frame.valid && frame.address = Frame.logAddress).map fun frame =>
    chunkOf frame.payload

@[simp]
theorem chunksOf_append (frames more : List Frame) :
    chunksOf (frames ++ more) = chunksOf frames ++ chunksOf more := by
  rw [chunksOf, List.filter_append, List.map_append]
  rfl

theorem chunks_push (sink : LogSink) (chunk : List UInt8) :
    (sink.push chunk).chunks <:+ sink.chunks ++ [chunk] := by
  unfold push trySend
  cases sink.isFull with
  | false => exact List.suffix_rfl
  | true =>
    obtain ⟨capacity, chunks, dropped⟩ := sink
    cases chunks with
    | nil => exact List.suffix_rfl
    | cons oldest rest => exact List.suffix_cons oldest (rest ++ [chunk])

theorem chunks_handleAll (sink : LogSink) (frames : List Frame) :
    (sink.handleAll frames).chunks <:+ sink.chunks ++ chunksOf frames := by
  induction frames generalizing sink with
  | nil =>
    rw [chunksOf, List.filter_nil, List.map_nil, List.append_nil]
    exact List.suffix_rfl
  | cons frame rest ih =>
    have hFirst : (sink.handleAll [frame]).chunks <:+ sink.chunks ++ chunksOf [frame] := by
      unfold handleAll chunksOf
      by_cases hLog : frame.valid = true ∧ frame.address = Frame.logAddress
      · rw [List.filter_cons_of_pos (by simp [hLog])]
        exact chunks_push sink (chunkOf frame.payload)
      · rw [List.filter_cons_of_neg (by simpa using hLog), List.filter_nil, List.map_nil,
          List.append_nil]
        exact List.suffix_rfl
    obtain ⟨lost, hLost⟩ := hFirst
    have hAll : sink.chunks ++ chunksOf (frame :: rest) =
        lost ++ ((sink.handleAll [frame]).chunks ++ chunksOf rest) := by
      rw [← List.singleton_append, chunksOf_append, ← List.append_assoc, ← List.append_assoc, hLost]
    rw [handleAll_cons, hAll]
    exact (ih _).trans (List.suffix_append lost _)

theorem chunks_read (sink : LogSink) : sink.read.2.chunks <:+ sink.chunks := by
  obtain ⟨capacity, chunks, dropped⟩ := sink
  cases chunks with
  | nil => exact List.suffix_rfl
  | cons oldest rest => exact List.suffix_cons oldest rest

end LogSink

namespace CallChannel

/-- Whether the channel is closed and nobody waits on it any more. -/
def IsShut (channel : CallChannel) : Prop :=
  channel.table.closed = true ∧ channel.table.pending = []

theorem isShut_close (channel : CallChannel) : channel.close.IsShut := ⟨rfl, rfl⟩

theorem IsShut.handle {channel : CallChannel} (h : channel.IsShut) (frame : Frame) :
    (channel.handle frame).IsShut := by
  rw [handle_eq]
  cases frame.response? with
  | none => exact h
  | some response => exact ⟨h.1, by simp [resolve, CallTable.resolve, h.2]⟩

theorem IsShut.handleAll {channel : CallChannel} (h : channel.IsShut) (frames : List Frame) :
    (channel.handleAll frames).IsShut := by
  unfold CallChannel.handleAll
  generalize frames.filter _ = handed
  induction handed generalizing channel with
  | nil => exact h
  | cons frame rest ih => exact ih (h.handle frame)

theorem IsShut.finish {channel : CallChannel} (h : channel.IsShut) {id : UInt32}
    (hEmpty : channel.inbox id = none) (settings : CallSettings) (service method : String) :
    (channel.finish settings id service method).1 = .error .disconnected := by
  have hPending : channel.isPending id = false := by
    rw [isPending, h.2]
    rfl
  rw [finish_eq, hEmpty, hPending]

theorem mem_mailboxes_handle {channel : CallChannel} {frame : Frame} {entry : UInt32 × Reply}
    (h : entry ∈ (channel.handle frame).mailboxes) :
    entry ∈ channel.mailboxes ∨ frame.response? = some entry := by
  rw [handle_eq] at h
  cases hResponse : frame.response? with
  | none =>
    rw [hResponse] at h
    exact .inl h
  | some response =>
    rw [hResponse] at h
    simp only [resolve] at h
    split at h
    · rcases List.mem_append.mp h with hOld | hNew
      · exact .inl hOld
      · obtain rfl := List.mem_singleton.mp hNew
        exact .inr rfl
    · exact .inl h

theorem table_handleAll (channel : CallChannel) (frames : List Frame) :
    (channel.handleAll frames).table.pending ⊆ channel.table.pending ∧
      (channel.handleAll frames).table.nextId = channel.table.nextId := by
  unfold handleAll
  generalize frames.filter _ = handed
  induction handed generalizing channel with
  | nil => exact ⟨List.Subset.refl _, rfl⟩
  | cons frame rest ih =>
    have hFirst : (channel.handle frame).table.pending ⊆ channel.table.pending ∧
        (channel.handle frame).table.nextId = channel.table.nextId := by
      rw [handle_eq]
      cases frame.response? with
      | none => exact ⟨List.Subset.refl _, rfl⟩
      | some response => exact ⟨List.erase_subset, rfl⟩
    obtain ⟨hPending, hNext⟩ := ih (channel.handle frame)
    exact ⟨List.Subset.trans hPending hFirst.1, hNext.trans hFirst.2⟩

theorem mem_mailboxes_handleAll {channel : CallChannel} {frames : List Frame}
    {entry : UInt32 × Reply} (h : entry ∈ (channel.handleAll frames).mailboxes) :
    entry ∈ channel.mailboxes ∨
      ∃ frame ∈ frames, frame.valid = true ∧ frame.address = Frame.callAddress ∧
        frame.response? = some entry := by
  induction frames generalizing channel with
  | nil => exact .inl h
  | cons frame rest ih =>
    rw [handleAll_cons] at h
    rcases ih h with hFirst | ⟨other, hOther, hCarries⟩
    · unfold handleAll at hFirst
      by_cases hHanded : frame.valid = true ∧ frame.address = Frame.callAddress
      · rw [List.filter_cons_of_pos (by simp [hHanded])] at hFirst
        rcases mem_mailboxes_handle hFirst with hOld | hNew
        · exact .inl hOld
        · exact .inr ⟨frame, List.mem_cons_self, hHanded.1, hHanded.2, hNew⟩
      · rw [List.filter_cons_of_neg (by simpa using hHanded)] at hFirst
        exact .inl hFirst
    · exact .inr ⟨other, List.mem_cons_of_mem frame hOther, hCarries⟩

end CallChannel

namespace Transport

def openHandlers (channel : CallChannel) (logs : LogSink) : Handlers TransportHandler :=
  [(Frame.callAddress, .calls channel), (Frame.logAddress, .log logs)]

theorem dispatch_openHandlers (channel : CallChannel) (logs : LogSink) (frame : Frame) :
    (openHandlers channel logs).dispatch TransportHandler.behaviour frame =
      openHandlers (channel.handleAll [frame]) (logs.handleAll [frame]) := by
  unfold Handlers.dispatch CallChannel.handleAll LogSink.handleAll
  by_cases hValid : frame.valid = true
  · by_cases hCall : frame.address = Frame.callAddress
    · simp [hValid, hCall, openHandlers, TransportHandler.behaviour, Frame.callAddress,
        Frame.logAddress]
    · rw [if_pos hValid]
      by_cases hLog : frame.address = Frame.logAddress
      · simp [hLog, hValid, openHandlers, TransportHandler.behaviour, Frame.callAddress,
          Frame.logAddress]
      · simp [hCall, hLog, openHandlers, Ne.symm hCall, Ne.symm hLog]
  · simp [hValid]

theorem dispatchAll_openHandlers (channel : CallChannel) (logs : LogSink) (frames : List Frame) :
    (openHandlers channel logs).dispatchAll TransportHandler.behaviour frames =
      openHandlers (channel.handleAll frames) (logs.handleAll frames) := by
  induction frames generalizing channel logs with
  | nil => rfl
  | cons frame frames ih =>
    rw [CallChannel.handleAll_cons, LogSink.handleAll_cons, ← ih, ← dispatch_openHandlers]
    rfl

theorem handlers_eq {transport : Transport} {channel : CallChannel}
    (h : transport.workerChannel = some channel) :
    transport.handlers = openHandlers channel transport.logs := by
  rw [handlers, h]
  rfl

theorem workerChannel_of_calls {transport : Transport} {channel : CallChannel}
    (hCalls : transport.calls = some channel) : transport.workerChannel = some channel := by
  rw [workerChannel, hCalls]
  rfl

theorem withChannel_of_calls {transport : Transport} {channel : CallChannel}
    (hCalls : transport.calls = some channel) (other : CallChannel) :
    transport.withChannel other = { transport with calls := some other } := by
  rw [withChannel, if_pos (by rw [hCalls]; rfl)]

theorem withChannel_eq (transport : Transport) (channel : CallChannel) :
    ∃ calls retired, transport.withChannel channel = { transport with calls, retired } ∧
      calls.or retired = some channel ∧ calls.isSome = transport.calls.isSome ∧
      (retired = transport.retired ∨ (transport.calls = none ∧ retired = some channel)) := by
  unfold withChannel
  cases hCalls : transport.calls with
  | none => exact ⟨none, some channel, by simp, rfl, rfl, .inr ⟨rfl, rfl⟩⟩
  | some old => exact ⟨some channel, transport.retired, rfl, rfl, rfl, .inl rfl⟩

theorem withHandlers_keeps (transport : Transport) (handlers : Handlers TransportHandler) :
    (transport.withHandlers handlers).holdsLink = transport.holdsLink ∧
      (transport.withHandlers handlers).calls.isSome = transport.calls.isSome := by
  unfold withHandlers
  induction handlers generalizing transport with
  | nil => exact ⟨rfl, rfl⟩
  | cons entry rest ih =>
    rw [List.foldl_cons]
    cases entry.2 with
    | log sink => exact ih { transport with logs := sink }
    | calls channel =>
      obtain ⟨calls, retired, hAfter, -, hSome, -⟩ := transport.withChannel_eq channel
      obtain ⟨hLink, hCalls⟩ := ih (transport.withChannel channel)
      dsimp only
      rw [hLink, hCalls, hAfter]
      exact ⟨rfl, hSome⟩

theorem receive_keeps (transport : Transport) (bytes : List UInt8) :
    (transport.receive bytes).holdsLink = transport.holdsLink ∧
      (transport.receive bytes).calls.isSome = transport.calls.isSome := by
  unfold receive
  split
  · exact withHandlers_keeps _ _
  · exact ⟨rfl, rfl⟩

theorem hangUp_keeps (transport : Transport) :
    transport.hangUp.holdsLink = transport.holdsLink ∧
      transport.hangUp.calls.isSome = transport.calls.isSome := by
  unfold hangUp
  split
  · exact withHandlers_keeps transport _
  · exact ⟨rfl, rfl⟩

theorem receive_eq {transport : Transport} {channel : CallChannel}
    (hAlive : transport.worker.isAlive = true) (hChannel : transport.workerChannel = some channel)
    (bytes : List UInt8) :
    transport.receive bytes =
      { transport.withChannel (channel.handleAll (transport.decoder.feed bytes).2) with
        decoder := (transport.decoder.feed bytes).1
        logs := transport.logs.handleAll (transport.decoder.feed bytes).2 } := by
  rw [receive, if_pos hAlive]
  dsimp only
  rw [handlers_eq hChannel, dispatchAll_openHandlers]
  simp only [withHandlers, openHandlers, List.foldl_cons, List.foldl_nil, withChannel]
  split <;> rfl

theorem hangUp_eq {transport : Transport} {channel : CallChannel}
    (hAlive : transport.worker.isAlive = true) (hChannel : transport.workerChannel = some channel) :
    transport.hangUp =
      { transport.withChannel channel.close with worker := transport.worker.threadEnds false } := by
  rw [hangUp, if_pos hAlive, handlers_eq hChannel]
  simp only [Handlers.close, withHandlers, openHandlers, TransportHandler.behaviour, List.map_cons,
    List.map_nil, List.foldl_cons, List.foldl_nil, withChannel]
  split <;> rfl

theorem receive_of_calls {transport : Transport} {channel : CallChannel}
    (hAlive : transport.worker.isAlive = true) (hCalls : transport.calls = some channel)
    (bytes : List UInt8) :
    transport.receive bytes = { transport with
      calls := some (channel.handleAll (transport.decoder.feed bytes).2)
      decoder := (transport.decoder.feed bytes).1
      logs := transport.logs.handleAll (transport.decoder.feed bytes).2 } := by
  rw [receive_eq hAlive (workerChannel_of_calls hCalls), withChannel_of_calls hCalls]

theorem hangUp_of_calls {transport : Transport} {channel : CallChannel}
    (hAlive : transport.worker.isAlive = true) (hCalls : transport.calls = some channel) :
    transport.hangUp = { transport with
      calls := some channel.close
      worker := transport.worker.threadEnds false } := by
  rw [hangUp_eq hAlive (workerChannel_of_calls hCalls), withChannel_of_calls hCalls]

/-- A transport that is open, with its table of calls and the settings of calls. -/
structure Serves (transport : Transport) (settings : TransportSettings) (channel : CallChannel) :
    Prop where
  isOpen : transport.isOpen = true
  settings : transport.settings = settings
  calls : transport.calls = some channel

theorem Serves.withCalls {transport : Transport} {settings : TransportSettings}
    {channel : CallChannel} (h : transport.Serves settings channel) (other : CallChannel) :
    { transport with calls := some other }.Serves settings other :=
  ⟨h.isOpen, h.settings, rfl⟩

theorem Serves.receive {transport : Transport} {settings : TransportSettings}
    {channel : CallChannel} (h : transport.Serves settings channel) (bytes : List UInt8) :
    (transport.receive bytes).Serves settings
        (channel.handleAll (transport.decoder.feed bytes).2) ∧
      (transport.receive bytes).decoder = (transport.decoder.feed bytes).1 := by
  have hAlive : transport.worker.isAlive = true := (Bool.and_eq_true_iff.mp h.isOpen).2
  rw [receive_of_calls hAlive h.calls]
  exact ⟨⟨h.isOpen, h.settings, rfl⟩, rfl⟩

theorem serves_of_openLink {transport opened : Transport} {conditions : OpenConditions}
    {actions : List LinkAction}
    (h : transport.openLink conditions = (.ok (), opened, actions)) :
    opened.Serves transport.settings .new ∧
      opened.decoder = .new transport.settings.worker.maxPayload := by
  have hOpens := transport.opens conditions
  rw [h] at hOpens
  cases hOpens with
  | opened hFree hStarts =>
    cases hStarts with
    | started hStop => exact ⟨⟨rfl, rfl, rfl⟩, rfl⟩

end Transport

end DeviceRig
