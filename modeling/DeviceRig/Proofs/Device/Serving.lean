import DeviceRig.Device.Simulator
import DeviceRig.Proofs.Call.PacketCodec
import DeviceRig.Proofs.Frame.Reading
import DeviceRig.Proofs.Frame.Writing

/-!
# What a simulated device sends on a connection

The device sends its boot lines and then one response to every request that a
service answers, in the order of the requests, up to the first message that is
too large for a frame. Frames that bring no request leave no trace but a
counter. The induction is on the frames that the reader yields.
-/
namespace DeviceRig

open Json

structure DeviceRequest where
  callId : Nat
  service : String
  method : String
  kwargs : Members

/-- The request that a frame brings to the device: only a valid frame on the channel of calls brings
one. -/
def Frame.request? (frame : Frame) : Option DeviceRequest :=
  if frame.valid = true ∧ frame.address = callAddress then
    match Packet.decode frame.payload with
    | .ok (.request callId service method kwargs) => some ⟨callId, service, method, kwargs⟩
    | .ok (.response ..) | .error _ => none
  else none

theorem Frame.valid_of_request? {frame : Frame} {request : DeviceRequest}
    (hRequest : frame.request? = some request) : frame.valid = true := by
  unfold Frame.request? at hRequest
  split at hRequest
  · rename_i hFrame
    exact hFrame.1
  · cases hRequest

/-- The response that carries the reply of a service, unless it is to be ignored. -/
def ServiceReply.response? (callId : Nat) : ServiceReply → Option Packet
  | .ack payload => some (.response callId true payload)
  | .nack => some (.response callId false [])
  | .ignore => none

namespace Simulator

variable {State : Type}

/-- The responses to some requests and the state behind them if the services are applied once for
each, in order. -/
def fulfil (simulator : Simulator State) (state : State) :
    List DeviceRequest → List Packet × State
  | [] => ([], state)
  | request :: rest =>
    let (reply, next) := simulator.apply request.service request.method request.kwargs state
    let (responses, last) := simulator.fulfil next rest
    ((reply.response? request.callId).toList ++ responses, last)

def bootMessage (line : String) : Frame.Message := (Frame.logAddress, Utf8.bytes line)

@[simp]
theorem bootMessage_fst (line : String) : (bootMessage line).1 = Frame.logAddress := rfl

@[simp]
theorem bootMessage_snd (line : String) : (bootMessage line).2 = Utf8.bytes line := rfl

def responseMessage (response : Packet) : Frame.Message := (Frame.callAddress, response.encode)

def Fits (message : Frame.Message) : Bool := message.2.length ≤ Frame.defaultMaxPayload

/-- How the first message that fits no frame ends a connection. -/
def breach? (messages : List Frame.Message) : Option FrameError :=
  (messages.find? fun message => !Fits message).map fun message =>
    .payloadTooLarge message.2.length Frame.defaultMaxPayload

section Attending

variable (simulator : Simulator State) (stats : Stats) (state : State) {frame : Frame}

theorem attend_of_none (hRequest : frame.request? = none) :
    simulator.attend stats state frame =
      (none, { stats with
        invalidFrames :=
          stats.invalidFrames + .ofNat (if !frame.valid then 1 else 0) }, state) := by
  unfold Frame.request? at hRequest
  unfold attend react
  cases hValid : frame.valid with
  | false => simp
  | true =>
    by_cases hAddress : frame.address = Frame.callAddress
    · rw [if_pos ⟨hValid, hAddress⟩] at hRequest
      simp only [hAddress]
      cases hDecode : Packet.decode frame.payload with
      | error error => simp
      | ok packet =>
        cases packet with
        | request callId service method kwargs =>
          rw [hDecode] at hRequest
          cases hRequest
        | response callId ack payload => simp
    · simp [hAddress]

theorem attend_of_some {request : DeviceRequest} (hRequest : frame.request? = some request) :
    simulator.attend stats state frame =
      let (reply, next) := simulator.apply request.service request.method request.kwargs state
      (reply.response? request.callId, { stats with requests := stats.requests + 1 }, next) := by
  unfold Frame.request? at hRequest
  split at hRequest
  · rename_i hFrame
    split at hRequest
    · rename_i callId service method kwargs hDecode
      cases hRequest
      unfold attend react
      rcases hApply : simulator.apply service method kwargs state with ⟨reply, next⟩
      cases reply <;> simp [hFrame, hDecode, hApply, ServiceReply.response?]
    · cases hRequest
    · cases hRequest
  · cases hRequest

end Attending

/-- What reaches the host of some messages: those before the first one that fits no frame. -/
def delivered (messages : List Frame.Message) : List UInt8 :=
  Frame.encodeAll (messages.takeWhile Fits)

section Messages

variable {message : Frame.Message} {messages more : List Frame.Message}

@[simp]
theorem delivered_cons_fits (hFits : Fits message = true) :
    delivered (message :: messages) =
      Frame.encode message.1 message.2 ++ delivered messages := by
  rw [delivered, List.takeWhile_cons_of_pos hFits, Frame.Decoder.encodeAll_cons, delivered]

theorem delivered_singleton (hFits : Fits message = true) :
    delivered [message] = Frame.encode message.1 message.2 :=
  (delivered_cons_fits hFits).trans (List.append_nil _)

@[simp]
theorem delivered_cons_unfit (hFits : Fits message = false) :
    delivered (message :: messages) = [] := by
  rw [delivered, List.takeWhile_cons_of_neg (Bool.eq_false_iff.mp hFits)]
  rfl

@[simp]
theorem breach?_cons_fits (hFits : Fits message = true) :
    breach? (message :: messages) = breach? messages := by
  rw [breach?, List.find?_cons_of_neg (by rw [hFits]; decide), breach?]

@[simp]
theorem breach?_cons_unfit (hFits : Fits message = false) :
    breach? (message :: messages) =
      some (.payloadTooLarge message.2.length Frame.defaultMaxPayload) := by
  rw [breach?, List.find?_cons_of_pos (by rw [hFits]; decide)]
  rfl

theorem delivered_of_fits (hFits : ∀ message ∈ messages, Fits message = true) :
    delivered messages = Frame.encodeAll messages := by
  rw [delivered, List.takeWhile_eq_self_iff.mpr hFits]

theorem breach?_of_fits (hFits : ∀ message ∈ messages, Fits message = true) :
    breach? messages = none := by
  have hNone : messages.find? (fun message => !Fits message) = none := by
    simpa using hFits
  rw [breach?, hNone, Option.map_none]

theorem breach?_append_of_none (h : breach? messages = none) :
    breach? (messages ++ more) = breach? more := by
  rw [breach?, Option.map_eq_none_iff] at h
  rw [breach?, List.find?_append, h, Option.none_or, breach?]

theorem breach?_append_of_some {error : FrameError} (h : breach? messages = some error) :
    breach? (messages ++ more) = some error := by
  obtain ⟨message, hFound, hError⟩ := Option.map_eq_some_iff.mp h
  rw [breach?, List.find?_append, hFound, Option.some_or, Option.map_some, hError]

theorem delivered_append_of_none (h : breach? messages = none) :
    delivered (messages ++ more) = delivered messages ++ delivered more := by
  induction messages with
  | nil => rfl
  | cons message rest ih =>
    cases hFits : Fits message with
    | true => simp [hFits, ih (by simpa [hFits] using h)]
    | false => simp [hFits] at h

theorem delivered_append_of_some {error : FrameError} (h : breach? messages = some error) :
    delivered (messages ++ more) = delivered messages := by
  induction messages with
  | nil => cases h
  | cons message rest ih =>
    cases hFits : Fits message with
    | true => simp [hFits, ih (by simpa [hFits] using h)]
    | false => simp [hFits]

end Messages

/-- Whether a writer has the limit of frames and a stream that takes all that is written. -/
structure Ready (writer : Frame.Writer) : Prop where
  willing : writer.stream.Willing
  limit : writer.maxPayload = Frame.defaultMaxPayload

section Sending

variable {writer : Frame.Writer} {message : Frame.Message}

theorem Ready.send_fits (h : Ready writer) (hFits : Fits message = true) :
    ∃ after, writer.send message.1 message.2 =
      (.ok (), Frame.encode message.1 message.2, after) ∧ Ready after := by
  rw [Fits, decide_eq_true_eq, ← h.limit] at hFits
  obtain ⟨after, hSend, hWilling, hLimit⟩ := h.willing.send message.1 hFits
  exact ⟨after, hSend, hWilling, hLimit.trans h.limit⟩

theorem Ready.send_unfit (h : Ready writer) (hFits : Fits message = false) :
    writer.send message.1 message.2 =
      (.error (.payloadTooLarge message.2.length Frame.defaultMaxPayload), [], writer) := by
  rw [Fits, decide_eq_false_iff_not, Nat.not_le, ← h.limit] at hFits
  rw [Frame.Writer.send_of_lt hFits, h.limit]

theorem Ready.sendBoot (h : Ready writer) (lines : List String) :
    ∃ after, Simulator.sendBoot writer lines =
      (match breach? (lines.map bootMessage) with
        | none => .ok ()
        | some error => .error error, delivered (lines.map bootMessage), after) ∧ Ready after := by
  induction lines generalizing writer with
  | nil => exact ⟨writer, rfl, h⟩
  | cons line rest ih =>
    rw [List.map_cons, Simulator.sendBoot]
    cases hFits : Fits (bootMessage line) with
    | true =>
      obtain ⟨after, hSend, hAfter⟩ := h.send_fits hFits
      obtain ⟨last, hRest, hLast⟩ := ih hAfter
      rw [bootMessage] at hSend
      exact ⟨last, by simp [hFits, hSend, hRest], hLast⟩
    | false =>
      have hSend := h.send_unfit hFits
      rw [bootMessage] at hSend
      exact ⟨writer, by simp [hFits, hSend], h⟩

end Sending

theorem fulfil_cons (simulator : Simulator State) (state : State) (request : DeviceRequest)
    (rest : List DeviceRequest) {reply : ServiceReply} {next : State}
    (hApply : simulator.apply request.service request.method request.kwargs state = (reply, next)) :
    simulator.fulfil state (request :: rest) =
      ((reply.response? request.callId).toList ++ (simulator.fulfil next rest).1,
        (simulator.fulfil next rest).2) := by
  rw [fulfil, hApply]

def responses (simulator : Simulator State) (state : State) (requests : List DeviceRequest) :
    List Frame.Message :=
  (simulator.fulfil state requests).1.map responseMessage

/-- How a connection ends on which some requests arrive, and so many frames with a bad checksum. -/
structure Answers (simulator : Simulator State) (stats : Stats) (state : State)
    (requests : List DeviceRequest) (invalid : Nat) (served : Served State) : Prop where
  sent : served.sent = delivered (simulator.responses state requests)
  failure : served.failure = breach? (simulator.responses state requests)
  whole : served.failure = none →
    served.stats =
        ⟨stats.requests + .ofNat requests.length, stats.invalidFrames + .ofNat invalid⟩ ∧
      served.state = (simulator.fulfil state requests).2
  /-- No request behind the one whose response fits no frame reaches a service. -/
  broken : ∀ made request left, requests = made ++ request :: left →
    breach? (simulator.responses state made) = none →
      breach? (simulator.responses state (made ++ [request])) ≠ none →
        served.state = (simulator.fulfil state (made ++ [request])).2

section Loop

variable {simulator : Simulator State} {stats : Stats} {state next : State}
  {requests : List DeviceRequest} {request : DeviceRequest} {invalid : Nat} {served : Served State}
  {reply : ServiceReply}

theorem answers_nothing (simulator : Simulator State) (stats : Stats) (state : State) :
    Answers simulator stats state [] 0 ⟨[], stats, state, none⟩ where
  sent := rfl
  failure := rfl
  whole _ := by
    refine ⟨?_, rfl⟩
    change stats = ⟨stats.requests + 0, stats.invalidFrames + 0⟩
    rw [UInt64.add_zero, UInt64.add_zero]
  broken made request left hRequests := by
    cases made <;> cases hRequests

theorem Answers.skip {more : Nat}
    (h : Answers simulator { stats with invalidFrames := stats.invalidFrames + .ofNat more } state
      requests invalid served) :
    Answers simulator stats state requests (more + invalid) served where
  sent := h.sent
  failure := h.failure
  whole hFailure := by
    obtain ⟨hStats, hState⟩ := h.whole hFailure
    refine ⟨?_, hState⟩
    rw [hStats, UInt64.ofNat_add, UInt64.add_assoc]
  broken := h.broken

theorem responses_cons
    (hApply : simulator.apply request.service request.method request.kwargs state = (reply, next)) :
    simulator.responses state (request :: requests) =
      ((reply.response? request.callId).map responseMessage).toList ++
        simulator.responses next requests := by
  rw [responses, fulfil_cons simulator state request requests hApply, List.map_append,
    Option.toList_map, responses]

theorem Answers.serve {own : Option Frame.Message}
    (h : Answers simulator { stats with requests := stats.requests + 1 } next requests invalid
      served)
    (hApply : simulator.apply request.service request.method request.kwargs state = (reply, next))
    (hOwn : (reply.response? request.callId).map responseMessage = own)
    (hFits : breach? own.toList = none) :
    Answers simulator stats state (request :: requests) invalid
      (served.behind (delivered own.toList)) := by
  have hResponses (rest : List DeviceRequest) :
      simulator.responses state (request :: rest) =
        own.toList ++ simulator.responses next rest := by
    rw [responses_cons hApply, hOwn]
  refine ⟨?_, ?_, fun hFailure => ?_, fun made other left hRequests hMade hOther => ?_⟩
  · rw [hResponses, delivered_append_of_none hFits, ← h.sent]
    rfl
  · rw [hResponses, breach?_append_of_none hFits]
    exact h.failure
  · obtain ⟨hStats, hState⟩ := h.whole hFailure
    rw [fulfil_cons simulator state request requests hApply]
    refine ⟨hStats.trans ?_, hState⟩
    rw [List.length_cons, UInt64.ofNat_add, UInt64.add_assoc, UInt64.add_comm 1]
    rfl
  · cases made with
    | nil =>
      cases hRequests
      rw [List.nil_append, hResponses, breach?_append_of_none hFits] at hOther
      exact absurd rfl hOther
    | cons first made =>
      cases hRequests
      rw [List.cons_append, hResponses, breach?_append_of_none hFits] at hOther
      rw [hResponses, breach?_append_of_none hFits] at hMade
      rw [List.cons_append, fulfil_cons simulator state _ _ hApply]
      exact h.broken made other left rfl hMade hOther

theorem answers_breach {message : Frame.Message}
    (hApply : simulator.apply request.service request.method request.kwargs state = (reply, next))
    (hOwn : (reply.response? request.callId).map responseMessage = some message)
    (hFits : Fits message = false) (requests : List DeviceRequest) (invalid : Nat)
    (last : Stats) :
    Answers simulator stats state (request :: requests) invalid
      ⟨[], last, next,
        some (.payloadTooLarge message.2.length Frame.defaultMaxPayload)⟩ := by
  have hResponses (rest : List DeviceRequest) : simulator.responses state (request :: rest) =
      message :: simulator.responses next rest := by
    rw [responses_cons hApply, hOwn]
    rfl
  refine ⟨?_, ?_, nofun, fun made other left hRequests hMade hOther => ?_⟩
  · simp [hResponses, hFits]
  · simp [hResponses, hFits]
  · cases made with
    | nil =>
      cases hRequests
      rw [List.nil_append, fulfil_cons simulator state _ _ hApply]
      rfl
    | cons first made =>
      cases hRequests
      simp [hResponses, hFits] at hMade

theorem answerFrom_closed {reader after : Frame.Reader} (writer : Frame.Writer)
    (hNext : reader.next = (.error .closed, after)) :
    simulator.answerFrom reader writer stats state = ⟨[], stats, state, none⟩ := by
  rw [answerFrom]
  split
  · rfl
  · rename_i hNotClosed hError
    rw [hNext] at hError
    cases hError
    exact absurd rfl hNotClosed
  · rename_i hFrame
    rw [hNext] at hFrame
    cases hFrame

theorem answerFrom_frame {reader after : Frame.Reader} {frame : Frame} (writer : Frame.Writer)
    (hNext : reader.next = (.ok frame, after)) :
    simulator.answerFrom reader writer stats state =
      match simulator.attend stats state frame with
      | (none, stats, state) => simulator.answerFrom after writer stats state
      | (some response, stats, state) =>
        match writer.send Frame.callAddress response.encode with
        | (.error error, sent, _) => ⟨sent, stats, state, some error⟩
        | (.ok (), sent, writer) =>
          (simulator.answerFrom after writer stats state).behind sent := by
  rw [answerFrom]
  split
  · rename_i hClosed
    rw [hNext] at hClosed
    cases hClosed
  · rename_i hError
    rw [hNext] at hError
    cases hError
  · rename_i hFrame
    rw [hNext] at hFrame
    cases hFrame
    rfl

theorem answerFrom_other {reader after : Frame.Reader} {frame : Frame} (writer : Frame.Writer)
    (hNext : reader.next = (.ok frame, after)) (hRequest : frame.request? = none) :
    simulator.answerFrom reader writer stats state =
      simulator.answerFrom after writer { stats with
        invalidFrames := stats.invalidFrames + .ofNat (if !frame.valid then 1 else 0) } state := by
  rw [answerFrom_frame writer hNext, attend_of_none simulator stats state hRequest]

theorem answerFrom_request {reader after : Frame.Reader} {frame : Frame} (writer : Frame.Writer)
    (hNext : reader.next = (.ok frame, after)) (hRequest : frame.request? = some request)
    (hApply : simulator.apply request.service request.method request.kwargs state =
      (reply, next)) :
    simulator.answerFrom reader writer stats state =
      let more := { stats with requests := stats.requests + 1 }
      match (reply.response? request.callId).map responseMessage with
      | none => simulator.answerFrom after writer more next
      | some message =>
        match writer.send message.1 message.2 with
        | (.error error, sent, _) => ⟨sent, more, next, some error⟩
        | (.ok (), sent, writer) => (simulator.answerFrom after writer more next).behind sent := by
  rw [answerFrom_frame writer hNext, attend_of_some simulator stats state hRequest, hApply]
  dsimp only
  cases reply.response? request.callId with
  | none => rfl
  | some response => rfl

theorem answers_answerFrom {reader : Frame.Reader} {frames : List Frame}
    (hYields : reader.Yields frames) {writer : Frame.Writer} (hReady : Ready writer) :
    Answers simulator stats state (frames.filterMap Frame.request?)
      (frames.countP fun frame => !frame.valid)
      (simulator.answerFrom reader writer stats state) := by
  induction hYields generalizing writer stats state with
  | closed hNext =>
    rw [answerFrom_closed writer hNext]
    exact answers_nothing simulator stats state
  | @frame reader after frame rest hNext hRest ih =>
    rw [List.countP_cons, Nat.add_comm]
    cases hRequest : frame.request? with
    | none =>
      rw [List.filterMap_cons_none hRequest, answerFrom_other writer hNext hRequest]
      exact (ih hReady).skip
    | some request =>
      obtain ⟨reply, next, hApply⟩ : ∃ reply next, simulator.apply request.service request.method
        request.kwargs state = (reply, next) := ⟨_, _, rfl⟩
      have hCount : (if !frame.valid then 1 else 0) = 0 := by
        rw [Frame.valid_of_request? hRequest]
        rfl
      rw [List.filterMap_cons_some hRequest, hCount, Nat.zero_add,
        answerFrom_request writer hNext hRequest hApply]
      dsimp only
      cases hOwn : (reply.response? request.callId).map responseMessage with
      | none => exact (ih hReady).serve hApply hOwn rfl
      | some message =>
        dsimp only
        cases hFits : Fits message with
        | true =>
          obtain ⟨behind, hSend, hBehind⟩ := hReady.send_fits hFits
          rw [hSend, ← delivered_singleton hFits]
          exact (ih hBehind).serve hApply hOwn (breach?_cons_fits hFits)
        | false =>
          rw [hReady.send_unfit hFits]
          exact answers_breach hApply hOwn hFits _ _ _

end Loop

end Simulator

end DeviceRig
