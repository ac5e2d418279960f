import DeviceRig.Proofs.Device.SideBySide
import DeviceRig.Proofs.Json.Members

/-!
# The light of the demo device

All connections to the device set and get one light. What the light keeps is
told by the settings that it accepted, on any connection and in the order in
which they came.
-/
namespace DeviceRig

open Json

namespace Service

def lightingName : String := Packet.qualifiedService Packet.automationNamespace "Lighting"

def TooBright (kwargs : Members) : Prop :=
  ∃ level : Int, Members.get? kwargs "level" = some (.number (.integer level)) ∧ 255 < level

theorem tooBright_iff {kwargs : Members} : TooBright kwargs ↔ 255 < levelOf kwargs := by
  unfold TooBright levelOf
  split
  · rename_i level hLevel
    simp [hLevel]
  · rename_i hLevel
    constructor
    · rintro ⟨level, hFound, -⟩
      exact absurd hFound (hLevel level)
    · intro hDark
      exact absurd hDark (by decide)

variable (kwargs state : Members)

theorem lighting_get : lighting "Get" kwargs state = (.json (.object state), state) := rfl

variable {kwargs} in
theorem lighting_set_tooBright (hBright : TooBright kwargs) :
    lighting "Set" kwargs state = (.nack, state) :=
  if_pos (tooBright_iff.mp hBright)

variable {kwargs} in
theorem lighting_set (hBright : ¬TooBright kwargs) :
    lighting "Set" kwargs state = (.json (.object kwargs), Members.putAll state kwargs) :=
  if_neg (mt tooBright_iff.mpr hBright)

theorem lighting_other {method : String} (hGet : method ≠ "Get") (hSet : method ≠ "Set") :
    lighting method kwargs state = (.nack, state) := by
  unfold lighting
  split
  · exact absurd rfl hSet
  · exact absurd rfl hGet
  · rfl

end Service

namespace Simulator

open Service

theorem demo_handle_lighting {request : DeviceRequest} (hService : request.service = lightingName)
    (state : Members) :
    demo.handle request state = lighting request.method request.kwargs state := by
  obtain ⟨callId, service, method, kwargs⟩ := request
  subst hService
  rfl

theorem demo_services : demo.services =
    [(Packet.qualifiedService Packet.diagnosticNamespace Packet.echoService, Service.echo),
      (lightingName, lighting)] := rfl

theorem demo_handle_other {request : DeviceRequest} (hService : request.service ≠ lightingName)
    (state : Members) : (demo.handle request state).2 = state := by
  have hNotLighting : (request.service == lightingName) = false := beq_false_of_ne hService
  rw [handle, apply, demo_services, List.lookup_cons, List.lookup_cons, hNotLighting]
  rcases request.service ==
    Packet.qualifiedService Packet.diagnosticNamespace Packet.echoService with _ | _
  · rfl
  · rfl

end Simulator

/-- What a turn sets on the light: the arguments of a `Set` that is accepted. -/
def ServiceTurn.settings (turn : ServiceTurn) : Members :=
  if turn.request.service = Service.lightingName ∧ turn.request.method = "Set" ∧
      turn.reply ≠ .nack then
    turn.request.kwargs
  else []

def ServiceTurn.allSettings (turns : List ServiceTurn) : Members :=
  turns.flatMap ServiceTurn.settings

namespace ServiceTurn

theorem allSettings_concat (turns : List ServiceTurn) (turn : ServiceTurn) :
    allSettings (turns ++ [turn]) = allSettings turns ++ turn.settings := by
  rw [allSettings, allSettings, List.flatMap_append, List.flatMap_singleton]

theorem settings_declined {turn : ServiceTurn} (hDeclined : turn.reply = .nack) :
    turn.settings = [] :=
  if_neg fun hAccepted => hAccepted.2.2 hDeclined

end ServiceTurn

namespace Simulator

open Service

theorem demo_handle_state (turn : ServiceTurn) (state : Members)
    (hReply : turn.reply = (demo.handle turn.request state).1) :
    (demo.handle turn.request state).2 = Members.putAll state turn.settings := by
  obtain ⟨link, ⟨callId, service, method, kwargs⟩, reply⟩ := turn
  dsimp only at hReply ⊢
  by_cases hService : service = lightingName
  · rw [demo_handle_lighting hService] at hReply ⊢
    dsimp only at hReply ⊢
    unfold ServiceTurn.settings
    by_cases hSet : method = "Set"
    · subst hSet
      by_cases hBright : TooBright kwargs
      · rw [lighting_set_tooBright state hBright] at hReply ⊢
        rw [if_neg fun h => h.2.2 hReply]
        rfl
      · rw [lighting_set state hBright] at hReply ⊢
        rw [if_pos ⟨hService, rfl, by rw [hReply]; nofun⟩]
    · rw [if_neg fun h => hSet h.2.1]
      by_cases hGet : method = "Get"
      · subst hGet
        rfl
      · rw [lighting_other kwargs state hGet hSet]
        rfl
  · rw [demo_handle_other hService, ServiceTurn.settings, if_neg fun h => hService h.1]
    rfl

theorem demo_after {turns : List ServiceTurn}
    (hReplies : ∀ earlier turn, earlier ++ [turn] <+: turns →
      turn.reply = (demo.handle turn.request (demo.after [] earlier)).1) :
    demo.after [] turns = Members.settled (ServiceTurn.allSettings turns) := by
  induction turns using List.reverseRecOn with
  | nil => rfl
  | append_singleton turns turn ih =>
    have hEarlier := ih fun earlier other hOther =>
      hReplies earlier other (hOther.trans (List.prefix_append turns [turn]))
    have hReply := hReplies turns turn (List.prefix_refl _)
    rw [after_concat, demo_handle_state turn _ hReply, hEarlier, Members.putAll_settled,
      ServiceTurn.allSettings_concat]

end Simulator

def DeviceRequest.packet (request : DeviceRequest) : Packet :=
  .request request.callId request.service request.method request.kwargs

namespace SideBySide

open Service Simulator

section Demo

variable {s : SideBySide Members}

theorem InTurn.state_eq_settled (h : InTurn demo [] s) :
    s.state = Members.settled (ServiceTurn.allSettings s.turns) :=
  h.state.trans (demo_after h.reply)

theorem InTurn.reply_eq (h : InTurn demo [] s) {earlier : List ServiceTurn} {turn : ServiceTurn}
    (hTurn : earlier ++ [turn] <+: s.turns) (hService : turn.request.service = lightingName) :
    turn.reply = (lighting turn.request.method turn.request.kwargs
      (Members.settled (ServiceTurn.allSettings earlier))).1 := by
  have hEarlier := demo_after (h.replies ((List.prefix_append _ _).trans hTurn))
  rw [h.reply earlier turn hTurn, demo_handle_lighting hService, hEarlier]

end Demo

def asking (request : DeviceRequest) : List Frame.ReadEvent :=
  [.data (Frame.encode Frame.callAddress request.packet.encode)]

theorem brings_asking (request : DeviceRequest) :
    Frame.ReadEvent.Brings (asking request)
      (Frame.encode Frame.callAddress request.packet.encode ++ []) :=
  .data (by simp [Frame.encode]) .nothing

theorem next_payload {payload : List UInt8} {request : DeviceRequest}
    (hDecode : Packet.decode payload = .ok request.packet)
    (hFits : payload.length ≤ Frame.defaultMaxPayload) :
    ∃ frame reader,
      (Frame.Reader.new Frame.defaultMaxPayload
        [.data (Frame.encode Frame.callAddress payload)]).next = (.ok frame, reader) ∧
        frame.request? = some request := by
  have hFrame : Frame.request? ⟨Frame.callAddress, payload, true⟩ = some request := by
    rw [Frame.request?, if_pos ⟨rfl, rfl⟩, hDecode, DeviceRequest.packet]
  have hBrings : Frame.ReadEvent.Brings [.data (Frame.encode Frame.callAddress payload)]
      (Frame.encode Frame.callAddress payload ++ []) :=
    .data (by simp [Frame.encode]) .nothing
  have hFrames := ((Frame.Decoder.carries_new Frame.defaultMaxPayload).send Frame.callAddress
    payload).frames
  rw [List.nil_append, List.nil_append, Frame.accepted_of_le _ hFits, Frame.Decoder.feed_new,
    ← List.append_nil (Frame.encode _ _)] at hFrames
  have hYields := Frame.Reader.yields_new hBrings Frame.defaultMaxPayload
  rw [hFrames] at hYields
  cases hYields with
  | frame hNext => exact ⟨_, _, hNext, hFrame⟩

theorem boot_fits : ∀ message ∈ demo.bootLog.map bootMessage, Fits message = true := by
  change ∀ message ∈ [(Frame.logAddress, Utf8.bytes "boot: devlink simulator"),
    (Frame.logAddress, Utf8.bytes "boot: lighting ready")], Fits message = true
  rw [Utf8.bytes_eq, Utf8.bytes_eq]
  decide +kernel

theorem ready_openWriter : Ready openWriter := ⟨Frame.Writer.willing_new _, rfl⟩

theorem run_payload {s : SideBySide Members} {number : Nat} {payload : List UInt8}
    {request : DeviceRequest}
    (hLink : s.links[number]? = some
      (.start demo [.data (Frame.encode Frame.callAddress payload)] openWriter))
    (hDecode : Packet.decode payload = .ok request.packet)
    (hFits : payload.length ≤ Frame.defaultMaxPayload) :
    ∃ next last reply, s.run demo [number, number, number] =
      ⟨next, s.links.set number last, s.turns ++ [⟨number, request, reply⟩]⟩ := by
  obtain ⟨frame, reader, hNext, hFrame⟩ := next_payload hDecode hFits
  obtain ⟨last, hRun⟩ := run_first demo hLink ready_openWriter boot_fits hNext hFrame
  exact ⟨_, last, _, hRun⟩

theorem run_asking {s : SideBySide Members} {number : Nat} {request : DeviceRequest}
    (hLink : s.links[number]? = some (.start demo (asking request) openWriter))
    (hId : request.callId < 2 ^ 32) (hKwargs : Value.Plain innerDepth (.object request.kwargs))
    (hFits : request.packet.encode.length ≤ Frame.defaultMaxPayload) :
    ∃ next last reply, s.run demo [number, number, number] =
      ⟨next, s.links.set number last, s.turns ++ [⟨number, request, reply⟩]⟩ :=
  run_payload hLink (Packet.decode_encode_request request.service request.method hId hKwargs) hFits

/-- The connections to one demo device, however many, whatever is read from them and however their
threads take turns. The light keeps what the accepted settings come to: each name in the place of
its first setting and with the value of its last. A `Get` is answered with what the settings before
it come to, on whichever connection they were made; a `Set` is answered with its own arguments
unless it asks for a level above 255; all else is declined, and declining changes nothing. On a
connection that works the requests have their turns in the order in which they arrive, and their
answers are sent in that order. One that starts now and is not kept waiting by others is served as
it is on its own, and every one can be served to its end. -/
theorem demo_keeps_settings (connections : List (List Frame.ReadEvent × Frame.Writer))
    (schedule : List Nat) :
    let s := (start demo [] connections).run demo schedule
    s.state = Members.settled (ServiceTurn.allSettings s.turns) ∧
      (∀ earlier turn, earlier ++ [turn] <+: s.turns → turn.request.service = lightingName →
        (turn.request.method = "Get" → turn.reply =
          .json (.object (Members.settled (ServiceTurn.allSettings earlier)))) ∧
        (turn.request.method = "Set" → ¬TooBright turn.request.kwargs →
          turn.reply = .json (.object turn.request.kwargs)) ∧
        (turn.request.method = "Set" → TooBright turn.request.kwargs → turn.reply = .nack) ∧
        (turn.request.method ≠ "Get" → turn.request.method ≠ "Set" → turn.reply = .nack)) ∧
      (∀ number turn, (s.advance demo number).turns = s.turns ++ [turn] → turn.reply = .nack →
        (s.advance demo number).state = s.state) ∧
      (∀ number script writer bytes, connections[number]? = some (script, writer) →
        Frame.ReadEvent.Brings script bytes → Ready writer →
          ∃ link : ServedLink, s.links[number]? = some link ∧
            link.Heard (demo.bootLog.map bootMessage)
              ((Frame.ofWire Frame.defaultMaxPayload bytes).filterMap Frame.request?)
              (s.turnsOf number)) ∧
      (∀ number script writer, s.links[number]? = some (.start demo script writer) →
        ∃ count last, let served :=
            demo.serveLink s.state (.new Frame.defaultMaxPayload script) writer
          let t := s.run demo (List.replicate count number)
          t.state = served.state ∧ t.links = s.links.set number last ∧ last.sent = served.sent ∧
            last.stats = served.stats ∧ last.ended = some served.failure) ∧
      ∀ number link, s.links[number]? = some link → ∃ count last,
        (s.run demo (List.replicate count number)).links[number]? = some last ∧
          last.ended ≠ none := by
  intro s
  have hInTurn : InTurn demo [] s := (inTurn_start demo [] connections).run schedule
  refine ⟨hInTurn.state_eq_settled, ?_, ?_, ?_, fun _ _ _ => serveLink_is_run demo,
    fun _ _ => run_ends demo⟩
  · intro earlier turn hTurn hService
    have hReply := hInTurn.reply_eq hTurn hService
    refine ⟨?_, ?_, ?_, ?_⟩
    · intro hGet
      rw [hReply, hGet, lighting_get]
    · intro hSet hBright
      rw [hReply, hSet, lighting_set _ hBright]
    · intro hSet hBright
      rw [hReply, hSet, lighting_set_tooBright _ hBright]
    · intro hGet hSet
      rw [hReply, lighting_other _ _ hGet hSet]
  · intro number turn hTurns hDeclined
    have hNext := (hInTurn.advance number).state_eq_settled
    rw [hTurns, ServiceTurn.allSettings_concat, ServiceTurn.settings_declined hDeclined,
      List.append_nil] at hNext
    exact hNext.trans hInTurn.state_eq_settled.symm
  · intro number script writer bytes hConnection hBrings hReady
    obtain ⟨link, hLink, hProgress⟩ :=
      (linkProgress_start demo [] hConnection hBrings hReady).run demo schedule
    exact ⟨link, hLink, hProgress.heard⟩

theorem demo_keeps_settings_of_three :
    let set : DeviceRequest := ⟨1, lightingName, "Set", [("level", .integer 10)]⟩
    let bright : DeviceRequest := ⟨2, lightingName, "Set", [("level", .integer 300)]⟩
    let get : DeviceRequest := ⟨3, lightingName, "Get", []⟩
    let connections := [set, bright, get].map fun request => (asking request, openWriter)
    let s := (start demo [] connections).run demo [0, 0, 0, 1, 1, 1, 2, 2, 2]
    s.turns = [⟨0, set, .json (.object set.kwargs)⟩, ⟨1, bright, .nack⟩,
        ⟨2, get, .json (.object set.kwargs)⟩] ∧
      s.state = set.kwargs ∧
      ∃ link said, s.links[2]? = some link ∧ link.sent = Frame.encodeAll said ∧
        said <+: demo.bootLog.map bootMessage ++
          [responseMessage (.response 3 true (Utf8.bytes (Value.object set.kwargs).compact))] := by
  intro set bright get connections s
  have hSetFits : set.packet.encode.length ≤ Frame.defaultMaxPayload := by
    rw [Packet.encode, Utf8.bytes_eq]
    decide +kernel
  have hBrightFits : bright.packet.encode.length ≤ Frame.defaultMaxPayload := by
    rw [Packet.encode, Utf8.bytes_eq]
    decide +kernel
  have hGetFits : get.packet.encode.length ≤ Frame.defaultMaxPayload := by
    rw [Packet.encode, Utf8.bytes_eq]
    decide +kernel
  let fresh (request : DeviceRequest) : ServedLink := .start demo (asking request) openWriter
  have hStart : start demo [] connections = ⟨[], [fresh set, fresh bright, fresh get], []⟩ := rfl
  obtain ⟨lit, first, setReply, hFirst⟩ := @run_asking
    ⟨[], [fresh set, fresh bright, fresh get], []⟩ 0 set rfl (by decide)
    ⟨List.nodup_singleton _, List.forall_mem_singleton.mpr rfl⟩ hSetFits
  obtain ⟨still, second, brightReply, hSecond⟩ := @run_asking
    ⟨lit, [first, fresh bright, fresh get], [⟨0, set, setReply⟩]⟩ 1 bright rfl (by decide)
    ⟨List.nodup_singleton _, List.forall_mem_singleton.mpr rfl⟩ hBrightFits
  obtain ⟨last, third, getReply, hThird⟩ := @run_asking
    ⟨still, [first, second, fresh get], [⟨0, set, setReply⟩, ⟨1, bright, brightReply⟩]⟩ 2 get rfl
    (by decide) ⟨List.nodup_nil, List.forall_mem_nil _⟩ hGetFits
  have hSchedule : [0, 0, 0, 1, 1, 1, 2, 2, 2] = [0, 0, 0] ++ ([1, 1, 1] ++ [2, 2, 2]) := rfl
  have hRun : (start demo [] connections).run demo [0, 0, 0, 1, 1, 1, 2, 2, 2] =
      ⟨last, [first, second, third],
        [⟨0, set, setReply⟩, ⟨1, bright, brightReply⟩, ⟨2, get, getReply⟩]⟩ := by
    rw [hSchedule, run_append, run_append, hStart, hFirst]
    exact (congrArg (fun t => run demo t [2, 2, 2]) hSecond).trans hThird
  have hKeeps := demo_keeps_settings connections [0, 0, 0, 1, 1, 1, 2, 2, 2]
  dsimp only at hKeeps
  rw [hRun] at hKeeps
  obtain ⟨hState, hReplies, -, hHeard, -, -⟩ := hKeeps
  have hDim : ¬TooBright set.kwargs := by
    rintro ⟨level, hLevel, hAbove⟩
    cases hLevel
    exact absurd hAbove (by decide)
  have hSet : setReply = .json (.object set.kwargs) :=
    (hReplies [] ⟨0, set, setReply⟩ ⟨_, rfl⟩ rfl).2.1 rfl hDim
  have hBright : brightReply = .nack :=
    (hReplies [⟨0, set, setReply⟩] ⟨1, bright, brightReply⟩ ⟨_, rfl⟩ rfl).2.2.1 rfl
      ⟨300, rfl, by decide⟩
  have hGet : getReply = .json (.object (Members.settled (ServiceTurn.allSettings
      [⟨0, set, setReply⟩, ⟨1, bright, brightReply⟩]))) :=
    (hReplies [⟨0, set, setReply⟩, ⟨1, bright, brightReply⟩] ⟨2, get, getReply⟩ ⟨_, rfl⟩ rfl).1 rfl
  have hAsked : Members.settled (ServiceTurn.allSettings
      [⟨0, set, setReply⟩, ⟨1, bright, brightReply⟩]) = set.kwargs := by
    subst hSet hBright
    rfl
  rw [hAsked] at hGet
  obtain ⟨link, hLink, hOwn⟩ :=
    hHeard 2 (asking get) openWriter _ rfl (brings_asking get) ready_openWriter
  obtain ⟨said, hSaid, hSent⟩ := hOwn.sent
  have hLast : last = set.kwargs := hState.trans (by subst hSet hBright hGet; rfl)
  change ((start demo [] connections).run demo _).turns = _ ∧
    ((start demo [] connections).run demo _).state = _ ∧
      ∃ link said, ((start demo [] connections).run demo _).links[2]? = some link ∧ _
  rw [hRun]
  refine ⟨?_, hLast, link, said, hLink, hSent, ?_⟩
  · rw [hSet, hBright, hGet]
  · rw [hGet] at hSaid
    exact hSaid

end SideBySide

end DeviceRig
