import DeviceRig.Proofs.Device.Conversation
import DeviceRig.Proofs.Transport.Receiving

/-!
# A remote call is a call of the service

A conversation is in one of four situations: no call is made, the request is
on its way, the response is on its way, or the reply has arrived. Every step
leads from one of them to the same or the next one, and none is a dead end
before all calls have come back, so in the end the replies and the state are
those of applying the services in place.
-/
namespace DeviceRig

open Json

namespace CallChannel

def idleAfter (n : Nat) : CallChannel :=
  ⟨⟨[], UInt32.ofNat n, false⟩, []⟩

def waitingAfter (n : Nat) : CallChannel :=
  ⟨⟨[UInt32.ofNat n], UInt32.ofNat n + 1, false⟩, []⟩

def answeredAfter (n : Nat) (reply : Reply) : CallChannel :=
  ⟨⟨[], UInt32.ofNat n + 1, false⟩, [(UInt32.ofNat n, reply)]⟩

theorem begin_idleAfter (n : Nat) (space : String) (call : RemoteCall) :
    (idleAfter n).begin (Packet.qualifiedService space call.service) call.method
        (.object call.kwargs) =
      .ok (UInt32.ofNat n, (call.request space n).encode, waitingAfter n) := rfl

theorem handle_responseFrame (n : Nat) (reply : Reply) :
    (waitingAfter n).handle (RemoteCall.responseFrame n reply) = answeredAfter n reply := by
  have hDecode : Packet.decode (RemoteCall.responseFrame n reply).payload =
      .ok (RemoteCall.response n reply) :=
    Packet.decode_encode_response reply.ack reply.payload (UInt32.toNat_lt _)
  rw [handle, hDecode]
  simp only [RemoteCall.response, UInt32.ofNat_toNat]
  simp [resolve, CallTable.resolve, waitingAfter, answeredAfter]

theorem finish_answeredAfter (n : Nat) (reply : Reply) (settings : CallSettings)
    (service method : String) :
    (answeredAfter n reply).finish settings (UInt32.ofNat n) service method =
      (.ok reply, idleAfter (n + 1)) := by
  have hNext : UInt32.ofNat (n + 1) = UInt32.ofNat n + 1 := by
    rw [UInt32.ofNat_add]
    rfl
  have hInbox : (answeredAfter n reply).inbox (UInt32.ofNat n) = some reply := by
    simp [answeredAfter, inbox]
  rw [finish_eq, hInbox, idleAfter, hNext]
  simp [answeredAfter, emptyMailbox]

theorem waitingAfter_waits (n : Nat) :
    ¬((waitingAfter n).inbox (UInt32.ofNat n) ≠ none ∨
      (waitingAfter n).isPending (UInt32.ofNat n) = false) := by
  simp [waitingAfter, inbox, isPending]

theorem handleAll_logs (channel : CallChannel) (frames : List Frame)
    (hLogs : ∀ frame ∈ frames, frame.address = Frame.logAddress) :
    channel.handleAll frames = channel := by
  have hNone : (frames.filter fun frame => frame.valid && frame.address = Frame.callAddress) =
      [] := by
    rw [List.filter_eq_nil_iff]
    intro frame hFrame
    rw [hLogs frame hFrame]
    simp [Frame.logAddress, Frame.callAddress]
  rw [handleAll, hNone]
  rfl

theorem handleAll_append (channel : CallChannel) (first second : List Frame) :
    channel.handleAll (first ++ second) = (channel.handleAll first).handleAll second := by
  rw [handleAll, List.filter_append, List.foldl_append]
  rfl

theorem handleAll_responseFrame (channel : CallChannel) (n : Nat) (reply : Reply) :
    channel.handleAll [RemoteCall.responseFrame n reply] =
      channel.handle (RemoteCall.responseFrame n reply) := by
  simp [handleAll, RemoteCall.responseFrame]

end CallChannel

namespace Conversation

variable {State : Type}

/-- The connection is up, the frames on their way are these, and so is the table of calls. -/
structure Linked (settings : TransportSettings) (c : Conversation State)
    (requests responses : List Frame) (channel : CallChannel) : Prop where
  fault : c.fault = none
  boot : ∀ line ∈ c.boot, (Utf8.bytes line).length ≤ Frame.defaultMaxPayload
  toDevice : ∃ carried, requests = c.pending ++ carried ∧
    Frame.Decoder.Carries Frame.defaultMaxPayload c.device c.toDevice carried
  toHost : Frame.Decoder.Carries settings.worker.maxPayload c.host.decoder c.toHost responses
  host : c.host.Serves settings channel

def AreLogs (frames : List Frame) : Prop :=
  ∀ frame ∈ frames, frame.address = Frame.logAddress

theorem Linked.sendBoot {settings : TransportSettings} {c : Conversation State}
    {requests responses : List Frame} {channel : CallChannel}
    (h : c.Linked settings requests responses channel) {line : String} {rest : List String}
    (hBoot : c.boot = line :: rest) {wire : List UInt8}
    (hSend : Simulator.sendFrame Frame.logAddress (Utf8.bytes line) = .ok wire) :
    ∃ logs, AreLogs logs ∧
      Linked settings { c with boot := rest, toHost := c.toHost ++ wire } requests
        (responses ++ logs) channel := by
  have hFits := h.boot line (hBoot ▸ List.mem_cons_self)
  rw [Simulator.sendFrame_of_le Frame.logAddress hFits] at hSend
  cases hSend
  refine ⟨_, fun frame => Frame.address_of_mem_accepted, h.fault, fun other hOther => ?_,
    h.toDevice, h.toHost.send Frame.logAddress (Utf8.bytes line), h.host⟩
  exact h.boot other (hBoot ▸ List.mem_cons_of_mem line hOther)

theorem Linked.readHost {settings : TransportSettings} {c : Conversation State}
    {requests responses : List Frame} {channel : CallChannel}
    (h : c.Linked settings requests responses channel) {piece behind : List UInt8}
    (hWire : c.toHost = piece ++ behind) :
    ∃ now later, responses = now ++ later ∧
      (c.hostReads piece behind).Linked settings requests later (channel.handleAll now) := by
  have hCarries := h.toHost
  rw [hWire] at hCarries
  obtain ⟨later, hFrames, hLater⟩ := hCarries.read
  obtain ⟨hServes, hDecoder⟩ := h.host.receive piece
  refine ⟨_, later, hFrames, h.fault, h.boot, h.toDevice, ?_, hServes⟩
  rw [← hDecoder] at hLater
  exact hLater

theorem Linked.readDevice {settings : TransportSettings} {c : Conversation State}
    {requests responses : List Frame} {channel : CallChannel}
    (h : c.Linked settings requests responses channel) (hPending : c.pending = [])
    {piece behind : List UInt8} (hWire : c.toDevice = piece ++ behind) :
    (c.deviceReads piece behind).Linked settings requests responses channel := by
  obtain ⟨carried, hRequests, hCarries⟩ := h.toDevice
  rw [hPending, List.nil_append] at hRequests
  rw [hWire] at hCarries
  obtain ⟨later, hFrames, hLater⟩ := hCarries.read
  exact ⟨h.fault, h.boot, ⟨later, hRequests.trans hFrames, hLater⟩, h.toHost, h.host⟩

theorem Linked.pending_mem {settings : TransportSettings} {c : Conversation State}
    {requests responses : List Frame} {channel : CallChannel}
    (h : c.Linked settings requests responses channel) {frame : Frame}
    (hFrame : frame ∈ c.pending) : frame ∈ requests := by
  obtain ⟨carried, hRequests, -⟩ := h.toDevice
  rw [hRequests]
  exact List.mem_append_left carried hFrame

theorem Linked.sendRequest {settings : TransportSettings} {c : Conversation State}
    {requests responses : List Frame} {channel : CallChannel}
    (h : c.Linked settings requests responses channel) {request : List UInt8}
    (hFits : request.length ≤ Frame.defaultMaxPayload) (begun : CallChannel)
    (left : List RemoteCall) (current : Option (UInt32 × RemoteCall)) :
    Linked settings { c with
      host := { c.host with calls := some begun }
      toDevice := c.toDevice ++ Frame.encode Frame.callAddress request
      left
      current } (requests ++ [⟨Frame.callAddress, request, true⟩]) responses begun := by
  obtain ⟨carried, hRequests, hCarries⟩ := h.toDevice
  have hSent := hCarries.send Frame.callAddress request
  rw [Frame.accepted_of_le Frame.callAddress hFits] at hSent
  refine ⟨h.fault, h.boot, ⟨_, ?_, hSent⟩, h.toHost, h.host.withCalls begun⟩
  rw [hRequests, List.append_assoc]

theorem Linked.sendResponse {settings : TransportSettings} {c : Conversation State}
    {request frame : Frame} {rest responses : List Frame} {channel : CallChannel}
    (h : c.Linked settings [request] responses channel) (hPending : c.pending = frame :: rest)
    {response : List UInt8} (hFits : response.length ≤ settings.worker.maxPayload)
    (stats : Simulator.Stats) (state : State) :
    Linked settings { c with
      pending := rest
      stats
      state
      fault := none
      toHost := c.toHost ++ Frame.encode Frame.callAddress response } []
      (responses ++ [⟨Frame.callAddress, response, true⟩]) channel := by
  obtain ⟨carried, hRequests, hCarries⟩ := h.toDevice
  rw [hPending, List.cons_append, List.cons.injEq] at hRequests
  have hSent := h.toHost.send Frame.callAddress response
  rw [Frame.accepted_of_le Frame.callAddress hFits] at hSent
  exact ⟨rfl, h.boot, ⟨carried, hRequests.2, hCarries⟩, hSent, h.host⟩

/-- How far the calls have come over a transport with these settings. -/
abbrev Progress (simulator : Simulator State) (settings : TransportSettings) (origin : State)
    (calls : List RemoteCall) : State → List Reply → List RemoteCall → Prop :=
  simulator.Progress settings.call.space settings.worker.maxPayload origin calls

inductive OnCourse (simulator : Simulator State) (settings : TransportSettings) (origin : State)
    (calls : List RemoteCall) (c : Conversation State) : Prop where
  | idle (replies : List Reply) (logs : List Frame)
      (hLinked : c.Linked settings [] logs (.idleAfter replies.length)) (hLogs : AreLogs logs)
      (hCurrent : c.current = none) (hAnswers : c.answers = replies.map .ok)
      (hProgress : Progress simulator settings origin calls c.state replies c.left)
  | requested (replies : List Reply) (logs : List Frame) (call : RemoteCall)
      (hLinked : c.Linked settings [call.requestFrame settings.call.space replies.length] logs
        (.waitingAfter replies.length))
      (hLogs : AreLogs logs) (hCurrent : c.current = some (UInt32.ofNat replies.length, call))
      (hAnswers : c.answers = replies.map .ok)
      (hProgress : Progress simulator settings origin calls c.state replies (call :: c.left))
  | responded (replies : List Reply) (logs : List Frame) (call : RemoteCall) (reply : Reply)
      (hLinked : c.Linked settings [] (logs ++ [RemoteCall.responseFrame replies.length reply])
        (.waitingAfter replies.length))
      (hLogs : AreLogs logs) (hBoot : c.boot = [])
      (hCurrent : c.current = some (UInt32.ofNat replies.length, call))
      (hAnswers : c.answers = replies.map .ok)
      (hProgress : Progress simulator settings origin calls c.state (replies ++ [reply]) c.left)
  | arrived (replies : List Reply) (call : RemoteCall) (reply : Reply)
      (hLinked : c.Linked settings [] [] (.answeredAfter replies.length reply))
      (hBoot : c.boot = []) (hCurrent : c.current = some (UInt32.ofNat replies.length, call))
      (hAnswers : c.answers = replies.map .ok)
      (hProgress : Progress simulator settings origin calls c.state (replies ++ [reply]) c.left)

variable {simulator : Simulator State} {settings : TransportSettings} {origin : State}
  {calls : List RemoteCall} {c d : Conversation State}

theorem OnCourse.sendBoot (h : c.OnCourse simulator settings origin calls) {line : String}
    {rest : List String} (hBoot : c.boot = line :: rest) {wire : List UInt8}
    (hSend : Simulator.sendFrame Frame.logAddress (Utf8.bytes line) = .ok wire) :
    OnCourse simulator settings origin calls
      { c with boot := rest, toHost := c.toHost ++ wire } := by
  cases h with
  | idle replies logs hLinked hLogs hCurrent hAnswers hProgress =>
    obtain ⟨more, hMore, hNext⟩ := hLinked.sendBoot hBoot hSend
    refine .idle replies (logs ++ more) hNext ?_ hCurrent hAnswers hProgress
    exact List.forall_mem_append.mpr ⟨hLogs, hMore⟩
  | requested replies logs call hLinked hLogs hCurrent hAnswers hProgress =>
    obtain ⟨more, hMore, hNext⟩ := hLinked.sendBoot hBoot hSend
    refine .requested replies (logs ++ more) call hNext ?_ hCurrent hAnswers hProgress
    exact List.forall_mem_append.mpr ⟨hLogs, hMore⟩
  | responded replies logs call reply hLinked hLogs hEmpty =>
    rw [hEmpty] at hBoot
    cases hBoot
  | arrived replies call reply hLinked hEmpty =>
    rw [hEmpty] at hBoot
    cases hBoot

theorem OnCourse.hostReads (h : c.OnCourse simulator settings origin calls)
    {piece behind : List UInt8} (hWire : c.toHost = piece ++ behind) :
    OnCourse simulator settings origin calls (c.hostReads piece behind) := by
  cases h with
  | idle replies logs hLinked hLogs hCurrent hAnswers hProgress =>
    obtain ⟨now, later, rfl, hNext⟩ := hLinked.readHost hWire
    obtain ⟨hNow, hLater⟩ := List.forall_mem_append.mp hLogs
    rw [CallChannel.handleAll_logs _ now hNow] at hNext
    exact .idle replies later hNext hLater hCurrent hAnswers hProgress
  | requested replies logs call hLinked hLogs hCurrent hAnswers hProgress =>
    obtain ⟨now, later, rfl, hNext⟩ := hLinked.readHost hWire
    obtain ⟨hNow, hLater⟩ := List.forall_mem_append.mp hLogs
    rw [CallChannel.handleAll_logs _ now hNow] at hNext
    exact .requested replies later call hNext hLater hCurrent hAnswers hProgress
  | responded replies logs call reply hLinked hLogs hBoot hCurrent hAnswers hProgress =>
    obtain ⟨now, later, hFrames, hNext⟩ := hLinked.readHost hWire
    rcases List.append_eq_append_iff.mp hFrames with ⟨last, rfl, hLast⟩ | ⟨middle, rfl, rfl⟩
    · rcases List.append_eq_singleton_iff.mp hLast.symm with ⟨rfl, rfl⟩ | ⟨rfl, rfl⟩
      · rw [List.append_nil, CallChannel.handleAll_logs _ logs hLogs] at hNext
        exact .responded replies [] call reply hNext (List.forall_mem_nil _) hBoot hCurrent hAnswers
          hProgress
      · rw [CallChannel.handleAll_append, CallChannel.handleAll_logs _ logs hLogs,
          CallChannel.handleAll_responseFrame, CallChannel.handle_responseFrame] at hNext
        exact .arrived replies call reply hNext hBoot hCurrent hAnswers hProgress
    · obtain ⟨hNow, hMiddle⟩ := List.forall_mem_append.mp hLogs
      rw [CallChannel.handleAll_logs _ now hNow] at hNext
      exact .responded replies middle call reply hNext hMiddle hBoot hCurrent hAnswers hProgress
  | arrived replies call reply hLinked hBoot hCurrent hAnswers hProgress =>
    obtain ⟨now, later, hFrames, hNext⟩ := hLinked.readHost hWire
    obtain ⟨rfl, rfl⟩ := List.append_eq_nil_iff.mp hFrames.symm
    exact .arrived replies call reply hNext hBoot hCurrent hAnswers hProgress

theorem OnCourse.deviceReads (h : c.OnCourse simulator settings origin calls)
    (hPending : c.pending = []) {piece behind : List UInt8}
    (hWire : c.toDevice = piece ++ behind) :
    OnCourse simulator settings origin calls (c.deviceReads piece behind) := by
  cases h with
  | idle replies logs hLinked hLogs hCurrent hAnswers hProgress =>
    exact .idle replies logs (hLinked.readDevice hPending hWire) hLogs hCurrent hAnswers hProgress
  | requested replies logs call hLinked hLogs hCurrent hAnswers hProgress =>
    exact .requested replies logs call (hLinked.readDevice hPending hWire) hLogs hCurrent hAnswers
      hProgress
  | responded replies logs call reply hLinked hLogs hBoot hCurrent hAnswers hProgress =>
    exact .responded replies logs call reply (hLinked.readDevice hPending hWire) hLogs hBoot
      hCurrent hAnswers hProgress
  | arrived replies call reply hLinked hBoot hCurrent hAnswers hProgress =>
    exact .arrived replies call reply (hLinked.readDevice hPending hWire) hBoot hCurrent hAnswers
      hProgress

theorem OnCourse.deviceAnswers (h : c.OnCourse simulator settings origin calls)
    (hBoot : c.boot = []) {frame : Frame} {rest : List Frame}
    (hPending : c.pending = frame :: rest) :
    OnCourse simulator settings origin calls (c.deviceAnswers simulator frame rest) := by
  have hFrame : frame ∈ c.pending := by
    rw [hPending]
    exact List.mem_cons_self
  cases h with
  | idle replies logs hLinked => cases hLinked.pending_mem hFrame
  | requested replies logs call hLinked hLogs hCurrent hAnswers hProgress =>
    obtain rfl := List.mem_singleton.mp (hLinked.pending_mem hFrame)
    obtain ⟨hKwargs, -, ⟨reply, hReply, hFits, hFitsHost⟩, -⟩ := hProgress.servable
    rw [Conversation.deviceAnswers, Simulator.answer_requestFrame simulator settings.call.space
      replies.length call c.stats c.state hKwargs hReply hFits]
    exact .responded replies logs call reply (hLinked.sendResponse hPending hFitsHost _ _) hLogs
      hBoot hCurrent hAnswers (hProgress.serve hReply)
  | responded replies logs call reply hLinked => cases hLinked.pending_mem hFrame
  | arrived replies call reply hLinked => cases hLinked.pending_mem hFrame

theorem OnCourse.comesBack (h : c.OnCourse simulator settings origin calls) {call : RemoteCall}
    {id : UInt32} {channel : CallChannel} (hCurrent : c.current = some (id, call))
    (hCalls : c.host.calls = some channel)
    (hReady : channel.inbox id ≠ none ∨ channel.isPending id = false) :
    OnCourse simulator settings origin calls (c.comesBack channel id call) := by
  cases h with
  | idle replies logs hLinked hLogs hNone =>
    rw [hNone] at hCurrent
    cases hCurrent
  | requested replies logs other hLinked hLogs hSame =>
    rw [hSame] at hCurrent
    cases hCurrent
    rw [hLinked.host.calls] at hCalls
    cases hCalls
    exact absurd hReady (CallChannel.waitingAfter_waits replies.length)
  | responded replies logs other reply hLinked hLogs hBoot hSame =>
    rw [hSame] at hCurrent
    cases hCurrent
    rw [hLinked.host.calls] at hCalls
    cases hCalls
    exact absurd hReady (CallChannel.waitingAfter_waits replies.length)
  | arrived replies other reply hLinked hBoot hSame hAnswers hProgress =>
    rw [hSame] at hCurrent
    cases hCurrent
    rw [hLinked.host.calls] at hCalls
    cases hCalls
    have hLength : (replies ++ [reply]).length = replies.length + 1 := by
      rw [List.length_append, List.length_singleton]
    rw [Conversation.comesBack, CallChannel.finish_answeredAfter, ← hLength]
    refine .idle (replies ++ [reply]) []
      ⟨hLinked.fault, hLinked.boot, hLinked.toDevice, hLinked.toHost, hLinked.host.withCalls _⟩
      (List.forall_mem_nil _) rfl ?_ hProgress
    rw [hAnswers, List.map_append]
    rfl

theorem OnCourse.nextCall (h : c.OnCourse simulator settings origin calls)
    (hIdle : c.current = none) {call : RemoteCall} {rest : List RemoteCall}
    (hLeft : c.left = call :: rest) {channel : CallChannel} (hCalls : c.host.calls = some channel) :
    ∃ id request begun wire,
      channel.begin (Packet.qualifiedService c.space call.service) call.method
        (.object call.kwargs) = .ok (id, request, begun) ∧
      Simulator.sendFrame Frame.callAddress request = .ok wire ∧
      OnCourse simulator settings origin calls { c with
        host := { c.host with calls := some begun }
        toDevice := c.toDevice ++ wire
        left := rest
        current := some (id, call) } := by
  cases h with
  | requested replies logs other hLinked hLogs hCurrent =>
    rw [hIdle] at hCurrent
    cases hCurrent
  | responded replies logs other reply hLinked hLogs hBoot hCurrent =>
    rw [hIdle] at hCurrent
    cases hCurrent
  | arrived replies other reply hLinked hBoot hCurrent =>
    rw [hIdle] at hCurrent
    cases hCurrent
  | idle replies logs hLinked hLogs hCurrent hAnswers hProgress =>
    rw [hLinked.host.calls] at hCalls
    cases hCalls
    rw [hLeft] at hProgress
    obtain ⟨-, hFits, -, -⟩ := hProgress.servable
    have hSpace : c.space = settings.call.space := by rw [space, hLinked.host.settings]
    rw [hSpace]
    refine ⟨_, _, _, _, CallChannel.begin_idleAfter replies.length settings.call.space call,
      Simulator.sendFrame_of_le Frame.callAddress hFits, ?_⟩
    exact .requested replies logs call (hLinked.sendRequest hFits _ _ _) hLogs rfl hAnswers
      hProgress

theorem OnCourse.fits_boot (h : c.OnCourse simulator settings origin calls) {line : String}
    (hLine : line ∈ c.boot) : (Utf8.bytes line).length ≤ Frame.defaultMaxPayload := by
  cases h with
  | idle replies logs hLinked => exact hLinked.boot line hLine
  | requested replies logs call hLinked => exact hLinked.boot line hLine
  | responded replies logs call reply hLinked => exact hLinked.boot line hLine
  | arrived replies call reply hLinked => exact hLinked.boot line hLine

theorem OnCourse.step (h : c.OnCourse simulator settings origin calls)
    (hStep : Step simulator c d) : d.OnCourse simulator settings origin calls := by
  cases hStep with
  | boot hFault hBoot hSend => exact h.sendBoot hBoot hSend
  | bootFails hFault hBoot hSend =>
    have hFits := h.fits_boot (hBoot ▸ List.mem_cons_self)
    rw [Simulator.sendFrame_of_le Frame.logAddress hFits] at hSend
    cases hSend
  | deviceReads hFault hBoot hPending hPiece hWire => exact h.deviceReads hPending hWire
  | deviceAnswers hFault hBoot hPending => exact h.deviceAnswers hBoot hPending
  | hostReads hPiece hWire => exact h.hostReads hWire
  | call hIdle hLeft hCalls hBegin hSend =>
    obtain ⟨id, request, begun, wire, hBegun, hSent, hNext⟩ := h.nextCall hIdle hLeft hCalls
    rw [hBegin] at hBegun
    cases hBegun
    rw [hSend] at hSent
    cases hSent
    exact hNext
  | refuse hIdle hLeft hCalls hBegin =>
    obtain ⟨id, request, begun, wire, hBegun, -, -⟩ := h.nextCall hIdle hLeft hCalls
    rw [hBegin] at hBegun
    cases hBegun
  | unsent hIdle hLeft hCalls hBegin hSend =>
    obtain ⟨id, request, begun, wire, hBegun, hSent, -⟩ := h.nextCall hIdle hLeft hCalls
    rw [hBegin] at hBegun
    cases hBegun
    rw [hSend] at hSent
    cases hSent
  | comesBack hCurrent hCalls hReady => exact h.comesBack hCurrent hCalls hReady

theorem OnCourse.leads (h : c.OnCourse simulator settings origin calls)
    (hLeads : Leads simulator c d) : d.OnCourse simulator settings origin calls := by
  induction hLeads with
  | refl => exact h
  | tail _ hStep ih => exact ih.step hStep

/-- The services were applied to the first calls, and at most one of their replies is still on its
way. -/
theorem OnCourse.applied (h : c.OnCourse simulator settings origin calls) :
    ∃ made replies late, made <+: calls ∧ late.length ≤ 1 ∧
      simulator.conduct settings.call.space origin made = (replies ++ late, c.state) ∧
      c.answers = replies.map .ok := by
  cases h with
  | idle replies logs hLinked hLogs hCurrent hAnswers hProgress =>
    obtain ⟨made, rfl, hMade⟩ := hProgress.applied
    exact ⟨made, replies, [], List.prefix_append _ _, Nat.zero_le _,
      hMade.trans (by rw [List.append_nil]), hAnswers⟩
  | requested replies logs call hLinked hLogs hCurrent hAnswers hProgress =>
    obtain ⟨made, rfl, hMade⟩ := hProgress.applied
    exact ⟨made, replies, [], List.prefix_append _ _, Nat.zero_le _,
      hMade.trans (by rw [List.append_nil]), hAnswers⟩
  | responded replies logs call reply hLinked hLogs hBoot hCurrent hAnswers hProgress =>
    obtain ⟨made, rfl, hMade⟩ := hProgress.applied
    exact ⟨made, replies, [reply], List.prefix_append _ _, Nat.le_refl _, hMade, hAnswers⟩
  | arrived replies call reply hLinked hBoot hCurrent hAnswers hProgress =>
    obtain ⟨made, rfl, hMade⟩ := hProgress.applied
    exact ⟨made, replies, [reply], List.prefix_append _ _, Nat.le_refl _, hMade, hAnswers⟩

theorem Linked.boot_step {requests responses : List Frame} {channel : CallChannel}
    (h : c.Linked settings requests responses channel) (hBoot : c.boot ≠ []) :
    ∃ d, Step simulator c d := by
  obtain ⟨line, rest, hLines⟩ := List.exists_cons_of_ne_nil hBoot
  have hFits := h.boot line (hLines ▸ List.mem_cons_self)
  exact ⟨_, .boot h.fault hLines (Simulator.sendFrame_of_le Frame.logAddress hFits)⟩

theorem OnCourse.complete (h : c.OnCourse simulator settings origin calls)
    (hEnd : ∀ d, ¬Step simulator c d) :
    c.answers = (simulator.conduct settings.call.space origin calls).1.map .ok ∧
      c.state = (simulator.conduct settings.call.space origin calls).2 := by
  have hBooted : ∀ {requests responses channel}, c.Linked settings requests responses channel →
      c.boot = [] := by
    intro requests responses channel hLinked
    by_cases hBoot : c.boot = []
    · exact hBoot
    · have hGoesOn : ∃ d, Step simulator c d := hLinked.boot_step hBoot
      obtain ⟨d, hStep⟩ := hGoesOn
      exact absurd hStep (hEnd d)
  have hCourse := h
  cases h with
  | idle replies logs hLinked hLogs hCurrent hAnswers hProgress =>
    cases hLeft : c.left with
    | nil =>
      obtain ⟨made, hCalls, hMade⟩ := hProgress.applied
      rw [hLeft, List.append_nil] at hCalls
      rw [hCalls, hMade]
      exact ⟨hAnswers, rfl⟩
    | cons call rest =>
      obtain ⟨id, request, begun, wire, hBegin, hSend, -⟩ :=
        hCourse.nextCall hCurrent hLeft hLinked.host.calls
      exact absurd (.call hCurrent hLeft hLinked.host.calls hBegin hSend) (hEnd _)
  | requested replies logs call hLinked hLogs hCurrent hAnswers hProgress =>
    have hBoot := hBooted hLinked
    cases hPending : c.pending with
    | nil =>
      obtain ⟨carried, hRequests, hCarries⟩ := hLinked.toDevice
      rw [hPending, List.nil_append] at hRequests
      have hWire := hCarries.wire_ne_nil (hRequests ▸ List.cons_ne_nil _ _)
      exact absurd (.deviceReads hLinked.fault hBoot hPending hWire (List.append_nil _).symm)
        (hEnd _)
    | cons frame rest => exact absurd (.deviceAnswers hLinked.fault hBoot hPending) (hEnd _)
  | responded replies logs call reply hLinked hLogs hBoot hCurrent hAnswers hProgress =>
    have hWire := hLinked.toHost.wire_ne_nil
      (List.append_ne_nil_of_right_ne_nil _ (List.cons_ne_nil _ _))
    exact absurd (.hostReads hWire (List.append_nil _).symm) (hEnd _)
  | arrived replies call reply hLinked hBoot hCurrent hAnswers hProgress =>
    have hInbox : (CallChannel.answeredAfter replies.length reply).inbox
        (UInt32.ofNat replies.length) ≠ none := by
      simp [CallChannel.answeredAfter, CallChannel.inbox]
    exact absurd (.comesBack hCurrent hLinked.host.calls (.inl hInbox)) (hEnd _)

theorem onCourse_start (simulator : Simulator State) (state : State) (calls : List RemoteCall)
    {transport host : Transport} {conditions : OpenConditions} {actions : List LinkAction}
    (hOpen : transport.openLink conditions = (.ok (), host, actions))
    (hBoot : ∀ line ∈ simulator.bootLog, (Utf8.bytes line).length ≤ Frame.defaultMaxPayload)
    (hServable : simulator.Servable transport.settings.call.space
      transport.settings.worker.maxPayload 0 state calls) :
    (start simulator state host calls).OnCourse simulator transport.settings state calls := by
  obtain ⟨hServes, hDecoder⟩ := Transport.serves_of_openLink hOpen
  refine .idle [] [] ⟨rfl, hBoot, ⟨[], rfl, Frame.Decoder.carries_new _⟩, ?_, hServes⟩
    (List.forall_mem_nil _) rfl rfl (Simulator.progress_nothing hServable)
  rw [start, hDecoder]
  exact Frame.Decoder.carries_new _

end Conversation

end DeviceRig
