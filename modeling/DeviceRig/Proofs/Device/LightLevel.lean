import DeviceRig.Proofs.Device.Lighting

/-!
# The level of the light

The light declines a whole level above 255 and no other level, so a decimal is
kept however bright it is. The guard looks at the first level that a request
names and the light keeps the last; they are one because a request that was
decoded names every argument once.
-/
namespace DeviceRig

open Json

def Json.Number.AtMost (limit : Nat) : Number → Prop
  | .integer value => value ≤ limit
  | .decimal value => value ≤ Float.ofNat limit

namespace ServiceTurn

def level? (turn : ServiceTurn) : Option Value :=
  Members.get? turn.settings "level"

def lastLevel? (turns : List ServiceTurn) : Option Value :=
  turns.reverse.findSome? level?

theorem lastLevel?_concat (turns : List ServiceTurn) (turn : ServiceTurn) :
    lastLevel? (turns ++ [turn]) = turn.level?.or (lastLevel? turns) := by
  rw [lastLevel?, List.reverse_concat, List.findSome?_cons]
  cases turn.level? <;> rfl

theorem level?_eq_some {turn : ServiceTurn} {level : Value} (h : turn.level? = some level) :
    turn.request.service = Service.lightingName ∧ turn.request.method = "Set" ∧
      turn.reply ≠ .nack ∧ Members.get? turn.request.kwargs "level" = some level := by
  unfold level? settings at h
  split at h
  · rename_i hAccepted
    exact ⟨hAccepted.1, hAccepted.2.1, hAccepted.2.2, h⟩
  · cases h

theorem nodup_settings {turn : ServiceTurn}
    (hNames : (Members.names turn.request.kwargs).Nodup) :
    (Members.names turn.settings).Nodup := by
  unfold settings
  split
  · exact hNames
  · exact List.nodup_nil

end ServiceTurn

theorem Frame.nodup_of_request? {frame : Frame} {request : DeviceRequest}
    (h : frame.request? = some request) : (Members.names request.kwargs).Nodup := by
  unfold Frame.request? at h
  split at h
  · split at h
    · rename_i hDecode
      cases h
      exact Packet.nodup_of_decode hDecode
    · cases h
    · cases h
  · cases h

theorem ServedLink.nodup_of_request? {link : ServedLink} {request : DeviceRequest}
    (h : link.request? = some request) : (Members.names request.kwargs).Nodup := by
  unfold ServedLink.request? at h
  split at h
  · exact Frame.nodup_of_request? h
  · cases h

namespace Simulator

theorem level_after {turns : List ServiceTurn}
    (hReplies : ∀ earlier turn, earlier ++ [turn] <+: turns →
      turn.reply = (demo.handle turn.request (demo.after [] earlier)).1)
    (hNames : ∀ turn ∈ turns, (Members.names turn.request.kwargs).Nodup) :
    Members.get? (demo.after [] turns) "level" = ServiceTurn.lastLevel? turns := by
  induction turns using List.reverseRecOn with
  | nil => rfl
  | append_singleton turns turn ih =>
    have hEarlier := ih
      (fun earlier other hOther =>
        hReplies earlier other (hOther.trans (List.prefix_append turns [turn])))
      fun other hOther => hNames other (List.mem_append_left [turn] hOther)
    have hReply := hReplies turns turn (List.prefix_refl _)
    have hSettings := ServiceTurn.nodup_settings (hNames turn List.mem_concat_self)
    rw [after_concat, demo_handle_state turn _ hReply, Members.get?_putAll_of_nodup hSettings,
      hEarlier, ServiceTurn.lastLevel?_concat]
    rfl

end Simulator

namespace SideBySide

open Service Simulator

section Level

variable {s : SideBySide Members} {earlier : List ServiceTurn} {turn : ServiceTurn}

def Named (s : SideBySide Members) : Prop :=
  ∀ turn ∈ s.turns, (Members.names turn.request.kwargs).Nodup

theorem Named.advance (h : Named s) (number : Nat) : Named (s.advance demo number) := by
  unfold SideBySide.advance
  split
  · exact h
  · rename_i link _
    intro turn hTurn
    rcases List.mem_append.mp hTurn with hOld | hNew
    · exact h turn hOld
    · obtain ⟨request, hRequest, rfl⟩ := Option.map_eq_some_iff.mp (Option.mem_toList.mp hNew)
      exact ServedLink.nodup_of_request? hRequest

theorem Named.run (h : Named s) (schedule : List Nat) : Named (s.run demo schedule) :=
  run_keeps Named (fun _ number hNamed => hNamed.advance number) h schedule

theorem InTurn.level_eq (h : InTurn demo [] s) (hNamed : Named s) (hEarlier : earlier <+: s.turns) :
    Members.get? (demo.after [] earlier) "level" = ServiceTurn.lastLevel? earlier :=
  level_after (h.replies hEarlier) fun turn hTurn => hNamed turn (hEarlier.subset hTurn)

theorem InTurn.level_le (h : InTurn demo [] s) (hTurn : turn ∈ s.turns) {level : Int}
    (hLevel : turn.level? = some (.number (.integer level))) : level ≤ 255 := by
  obtain ⟨hService, hSet, hAccepted, hFound⟩ := ServiceTurn.level?_eq_some hLevel
  obtain ⟨before, after, hTurns⟩ := List.append_of_mem hTurn
  have hPrefix : before ++ [turn] <+: s.turns := ⟨after, by simp [hTurns]⟩
  by_contra hAbove
  have hBright : TooBright turn.request.kwargs := ⟨level, hFound, Int.not_le.mp hAbove⟩
  have hReply := h.reply_eq hPrefix hService
  rw [hSet, lighting_set_tooBright _ hBright] at hReply
  exact hAccepted hReply

theorem InTurn.settings_eq (h : InTurn demo [] s) (hTurn : earlier ++ [turn] <+: s.turns)
    (hService : turn.request.service = lightingName) (hSet : turn.request.method = "Set")
    (hBright : ¬TooBright turn.request.kwargs) : turn.settings = turn.request.kwargs := by
  have hReply := h.reply_eq hTurn hService
  rw [hSet, lighting_set _ hBright] at hReply
  refine if_pos ⟨hService, hSet, ?_⟩
  rw [hReply]
  nofun

theorem not_tooBright_of_decimal {kwargs : Members} {level : Float}
    (hLevel : Members.get? kwargs "level" = some (.number (.decimal level))) :
    ¬TooBright kwargs := by
  rintro ⟨whole, hWhole, -⟩
  rw [hLevel] at hWhole
  cases hWhole

end Level

/-- The connections to one demo device, however many, whatever is read from them and however their
threads take turns. The level that the light has is that of the last accepted `Set` that names one.
It is at most 255 unless it is a decimal, and every decimal is accepted. -/
theorem demo_level_bounded (connections : List (List Frame.ReadEvent × Frame.Writer))
    (schedule : List Nat) :
    let s := (start demo [] connections).run demo schedule
    s.state = demo.after [] s.turns ∧
      (∀ earlier, earlier <+: s.turns →
        let kept := demo.after [] earlier
        Members.get? kept "level" = ServiceTurn.lastLevel? earlier ∧
          ∀ number, Members.get? kept "level" = some (.number number) → number.AtMost 255 ∨
            ∃ level, number = .decimal level ∧ ∃ turn ∈ earlier,
              turn.request.method = "Set" ∧
                Members.get? turn.request.kwargs "level" = some (.number (.decimal level))) ∧
      ∀ earlier turn, earlier ++ [turn] <+: s.turns → turn.request.service = lightingName →
        (turn.request.method = "Get" → turn.reply = .json (.object (demo.after [] earlier))) ∧
        (turn.request.method = "Set" → ∀ level,
          Members.get? turn.request.kwargs "level" = some (.number (.decimal level)) →
            turn.level? = some (.number (.decimal level))) := by
  intro s
  have hInTurn : InTurn demo [] s := (inTurn_start demo [] connections).run schedule
  have hStart : Named (start demo [] connections) := List.forall_mem_nil _
  have hNamed : Named s := hStart.run schedule
  refine ⟨hInTurn.state, ?_, ?_⟩
  · intro earlier hEarlier
    have hLevel := hInTurn.level_eq hNamed hEarlier
    refine ⟨hLevel, ?_⟩
    intro number hNumber
    rw [hLevel] at hNumber
    obtain ⟨turn, hReversed, hFound⟩ := List.exists_of_findSome?_eq_some hNumber
    have hTurn := List.mem_reverse.mp hReversed
    obtain ⟨-, hSet, -, hKwargs⟩ := ServiceTurn.level?_eq_some hFound
    cases number with
    | integer level => exact .inl (hInTurn.level_le (hEarlier.subset hTurn) hFound)
    | decimal level => exact .inr ⟨level, rfl, turn, hTurn, hSet, hKwargs⟩
  · intro earlier turn hTurn hService
    constructor
    · intro hGet
      rw [hInTurn.reply earlier turn hTurn, demo_handle_lighting hService, hGet, lighting_get]
    · intro hSet level hLevel
      rw [ServiceTurn.level?,
        hInTurn.settings_eq hTurn hService hSet (not_tooBright_of_decimal hLevel), hLevel]

theorem turns_pair {first second : List UInt8} {request next : DeviceRequest}
    (hFirst : Packet.decode first = .ok request.packet)
    (hFirstFits : first.length ≤ Frame.defaultMaxPayload)
    (hSecond : Packet.decode second = .ok next.packet)
    (hSecondFits : second.length ≤ Frame.defaultMaxPayload) :
    ∃ reply answer, ((start demo []
      [([.data (Frame.encode Frame.callAddress first)], openWriter),
        ([.data (Frame.encode Frame.callAddress second)], openWriter)]).run demo
          [0, 0, 0, 1, 1, 1]).turns = [⟨0, request, reply⟩, ⟨1, next, answer⟩] := by
  let fresh (payload : List UInt8) : ServedLink :=
    .start demo [.data (Frame.encode Frame.callAddress payload)] openWriter
  obtain ⟨lit, last, reply, hRun⟩ := @run_payload ⟨[], [fresh first, fresh second], []⟩ 0 first
    request rfl hFirst hFirstFits
  obtain ⟨_, _, answer, hNext⟩ := @run_payload
    ⟨lit, [last, fresh second], [⟨0, request, reply⟩]⟩ 1 second next rfl hSecond hSecondFits
  have hSchedule : [0, 0, 0, 1, 1, 1] = [0, 0, 0] ++ [1, 1, 1] := rfl
  refine ⟨reply, answer, ?_⟩
  rw [hSchedule, run_append]
  exact congrArg SideBySide.turns ((congrArg (fun t => run demo t [1, 1, 1]) hRun).trans hNext)

def askForLight : DeviceRequest := ⟨2, lightingName, "Get", []⟩

theorem decode_askForLight : Packet.decode askForLight.packet.encode = .ok askForLight.packet :=
  Packet.decode_encode_request lightingName "Get" (by decide)
    ⟨List.nodup_nil, List.forall_mem_nil _⟩

theorem askForLight_fits : askForLight.packet.encode.length ≤ Frame.defaultMaxPayload := by
  rw [Packet.encode, Utf8.bytes_eq]
  decide +kernel

theorem demo_level_bounded_dimmed :
    let set : DeviceRequest := ⟨1, lightingName, "Set", [("level", .integer 7)]⟩
    let s := (start demo [] [(asking set, openWriter), (asking askForLight, openWriter)]).run demo
      [0, 0, 0, 1, 1, 1]
    ∃ turn answer, s.turns = [turn, answer] ∧ answer.request = askForLight ∧
      answer.reply = .json (.object [("level", .integer 7)]) ∧ (Number.integer 7).AtMost 255 := by
  intro set s
  have hFits : set.packet.encode.length ≤ Frame.defaultMaxPayload := by
    rw [Packet.encode, Utf8.bytes_eq]
    decide +kernel
  have hSet : Packet.decode set.packet.encode = .ok set.packet :=
    Packet.decode_encode_request lightingName "Set" (by decide)
      ⟨List.nodup_singleton _, List.forall_mem_singleton.mpr rfl⟩
  obtain ⟨reply, answer, hTurns⟩ := turns_pair hSet hFits decode_askForLight askForLight_fits
  obtain ⟨-, hKept, hReplies⟩ := demo_level_bounded
    [(asking set, openWriter), (asking askForLight, openWriter)] [0, 0, 0, 1, 1, 1]
  have hAnswer := (hReplies [⟨0, set, reply⟩] ⟨1, askForLight, answer⟩
    (hTurns ▸ List.prefix_refl _) rfl).1 rfl
  have hLevel := (hKept [⟨0, set, reply⟩] (hTurns ▸ List.prefix_append _ _)).2 (.integer 7) rfl
  refine ⟨_, _, hTurns, rfl, hAnswer, ?_⟩
  rcases hLevel with hAtMost | ⟨level, hDecimal, -⟩
  · exact hAtMost
  · cases hDecimal

def brightPayload : List UInt8 :=
  Utf8.bytes ("\x7b\"type\":\"request\",\"call_id\":1,\"service\":\"chip.rpc.Lighting\"," ++
    "\"method\":\"Set\",\"kwargs\":\x7b\"level\":300.5\x7d\x7d")

theorem brightPayload_fits : brightPayload.length ≤ Frame.defaultMaxPayload := by
  rw [brightPayload, Utf8.bytes_eq]
  decide +kernel

/-- Whether the packet is a call numbered 1 that sets nothing but a decimal level above 255. -/
def setsBright : Except JsonError Packet → Bool
  | .ok (.request callId service method [(name, .number (.decimal level))]) =>
    callId == 1 && service == lightingName && method == "Set" && name == "level" &&
      !decide (level ≤ Float.ofNat 255)
  | _ => false

theorem decode_brightPayload : ∃ level, ¬(Number.decimal level).AtMost 255 ∧
    Packet.decode brightPayload =
      .ok (.request 1 lightingName "Set" [("level", .number (.decimal level))]) := by
  have hDecoded : setsBright (Packet.decode brightPayload) = true := by decide +kernel
  unfold setsBright at hDecoded
  split at hDecoded
  · rename_i callId service method name level hDecode
    simp only [Bool.and_eq_true, beq_iff_eq, Bool.not_eq_true', decide_eq_false_iff_not] at hDecoded
    obtain ⟨⟨⟨⟨rfl, rfl⟩, rfl⟩, rfl⟩, hAbove⟩ := hDecoded
    exact ⟨level, hAbove, hDecode⟩
  · cases hDecoded

/-- The light is set to 300.5 on one connection and tells this level on another. -/
theorem demo_level_above_255 :
    let s := (start demo []
      [([.data (Frame.encode Frame.callAddress brightPayload)], openWriter),
        (asking askForLight, openWriter)]).run demo [0, 0, 0, 1, 1, 1]
    ∃ set answer number, s.turns = [set, answer] ∧ answer.request = askForLight ∧
      answer.reply = .json (.object (demo.after [] [set])) ∧
      Members.get? (demo.after [] [set]) "level" = some (.number number) ∧
      ¬number.AtMost 255 := by
  intro s
  obtain ⟨level, hAbove, hBright⟩ := decode_brightPayload
  let set : DeviceRequest := ⟨1, lightingName, "Set", [("level", .number (.decimal level))]⟩
  obtain ⟨reply, answer, hTurns⟩ :=
    @turns_pair _ _ set askForLight hBright brightPayload_fits decode_askForLight askForLight_fits
  have hInTurn : InTurn demo [] s := (inTurn_start demo [] _).run [0, 0, 0, 1, 1, 1]
  have hAnswer := hInTurn.reply [⟨0, set, reply⟩] ⟨1, askForLight, answer⟩
    (hTurns ▸ List.prefix_refl _)
  exact ⟨_, _, .decimal level, hTurns, rfl, hAnswer, rfl, hAbove⟩

end SideBySide

end DeviceRig
