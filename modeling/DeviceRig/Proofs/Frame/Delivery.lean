import DeviceRig.Proofs.Frame.Resynchronisation

/-!
# Frames on their way

Bytes between a sender of whole frames and a decoder carry the frames that the
decoder will give for them, and leave nothing unfinished behind. Sending adds a
frame at the end, and a read of any size takes some of them from the front.
What is left of a frame whose first bytes are lost carries nothing.
-/
namespace DeviceRig.Frame

def IsTorn (rest : List UInt8) : Prop :=
  rest = [] ∨ ∃ body, rest = body ++ [flag] ∧ flag ∉ body

theorem IsTorn.of_append {piece behind : List UInt8} (h : IsTorn (piece ++ behind)) :
    IsTorn behind := by
  rcases h with hNil | ⟨body, hBody, hFlag⟩
  · exact .inl (List.append_eq_nil_iff.mp hNil).2
  · rcases List.append_eq_append_iff.mp hBody with ⟨more, rfl, rfl⟩ | ⟨extra, rfl, hExtra⟩
    · exact .inr ⟨more, rfl, fun hMem => hFlag (List.mem_append_right piece hMem)⟩
    · rcases List.singleton_eq_append_iff.mp hExtra with ⟨-, rfl⟩ | ⟨-, rfl⟩
      · exact .inr ⟨[], rfl, List.not_mem_nil⟩
      · exact .inl rfl

theorem isTorn_of_encode {address : UInt8} {payload piece behind : List UInt8} (hPiece : piece ≠ [])
    (h : encode address payload = piece ++ behind) : IsTorn behind := by
  obtain ⟨first, rest, rfl⟩ := List.exists_cons_of_ne_nil hPiece
  rw [encode, List.cons_append, List.cons_append, List.cons.injEq] at h
  have hTorn : IsTorn ((body address payload).flatMap stuff ++ [flag]) :=
    .inr ⟨_, rfl, flag_notMem_stuffed _⟩
  rw [h.2] at hTorn
  exact hTorn.of_append

namespace Decoder

/-- The wire carries just these frames to the decoder and ends between two frames. -/
structure Carries (maxPayload : Nat) (decoder : Decoder) (wire : List UInt8)
    (frames : List Frame) : Prop where
  limit : decoder.maxBody = maxPayload + overhead
  frames : (decoder.feed wire).2 = frames
  between : (decoder.feed wire).1.phase = .hunting ∨ (decoder.feed wire).1.phase = .collecting #[]

theorem carries_new (maxPayload : Nat) : Carries maxPayload (new maxPayload) [] [] where
  limit := rfl
  frames := rfl
  between := .inl rfl

theorem walk_message (maxPayload : Nat) (message : Message) {phase : Phase}
    (hPhase : phase = .hunting ∨ phase = .collecting #[]) :
    walk (maxPayload + overhead) phase (encode message.1 message.2) =
      (.collecting #[], accepted maxPayload [message]) := by
  rcases hPhase with rfl | rfl
  · have hFrames := walk_encode maxPayload message
    obtain ⟨tail, hTail⟩ : ∃ tail, encode message.1 message.2 = flag :: tail := ⟨_, rfl⟩
    rw [hTail, walk_flag_cons] at hFrames
    rw [hTail, walk, step, if_pos rfl]
    simp only [hFrames, Option.toList_none, List.nil_append]
  · exact walk_encode maxPayload message

theorem Carries.send {maxPayload : Nat} {decoder : Decoder} {wire : List UInt8}
    {frames : List Frame} (h : Carries maxPayload decoder wire frames) (address : UInt8)
    (payload : List UInt8) :
    Carries maxPayload decoder (wire ++ encode address payload)
      (frames ++ accepted maxPayload [(address, payload)]) := by
  obtain ⟨hLimit, hFrames, hBetween⟩ := h
  have hMessage := walk_message maxPayload (address, payload) hBetween
  have hLater : (decoder.feed wire).1.maxBody = maxPayload + overhead := by
    rw [feed_eq_walk]
    exact hLimit
  have hFeed : (decoder.feed wire).1.feed (encode address payload) =
      (⟨maxPayload + overhead, .collecting #[]⟩, accepted maxPayload [(address, payload)]) := by
    rw [feed_eq_walk, hLater, hMessage, ← hLater]
  refine ⟨hLimit, ?_, ?_⟩
  · rw [feed_append, hFeed, hFrames]
  · rw [feed_append, hFeed]
    exact .inr rfl

theorem Carries.read {maxPayload : Nat} {decoder : Decoder} {piece behind : List UInt8}
    {frames : List Frame} (h : Carries maxPayload decoder (piece ++ behind) frames) :
    ∃ later, frames = (decoder.feed piece).2 ++ later ∧
      Carries maxPayload (decoder.feed piece).1 behind later := by
  obtain ⟨hLimit, hFrames, hBetween⟩ := h
  rw [feed_append] at hFrames hBetween
  refine ⟨_, hFrames.symm, ?_, rfl, hBetween⟩
  rw [feed_eq_walk]
  exact hLimit

theorem walk_hunting_of_notMem (maxBody : Nat) {bytes : List UInt8} (h : flag ∉ bytes) :
    walk maxBody .hunting bytes = (.hunting, []) := by
  induction bytes with
  | nil => rfl
  | cons byte rest ih =>
    obtain ⟨hByte, hRest⟩ := not_or.mp (mt List.mem_cons.mpr h)
    rw [walk, step, if_neg (Ne.symm hByte)]
    simp only [ih hRest, Option.toList_none, List.nil_append]

/-- A fresh decoder that comes upon the rest of a frame gives the whole frames behind it. -/
theorem carries_torn (maxPayload : Nat) {torn : List UInt8} (hTorn : IsTorn torn)
    (messages : List Message) :
    Carries maxPayload (new maxPayload) (torn ++ encodeAll messages)
      (accepted maxPayload messages) := by
  have hBehind : ∀ phase, phase = .hunting ∨ phase = .collecting #[] →
      (walk (maxPayload + overhead) phase (encodeAll messages)).2 =
        accepted maxPayload messages ∧
      ((walk (maxPayload + overhead) phase (encodeAll messages)).1 = .hunting ∨
        (walk (maxPayload + overhead) phase (encodeAll messages)).1 = .collecting #[]) := by
    intro phase hPhase
    cases messages with
    | nil => exact ⟨rfl, hPhase⟩
    | cons message rest =>
      rw [encodeAll_cons, walk_append, walk_message maxPayload message hPhase, walk_encodeAll,
        ← accepted_cons]
      exact ⟨rfl, .inr rfl⟩
  have hStart : ∃ phase, walk (maxPayload + overhead) .hunting torn = (phase, []) ∧
      (phase = .hunting ∨ phase = .collecting #[]) := by
    rcases hTorn with rfl | ⟨body, rfl, hBody⟩
    · exact ⟨.hunting, rfl, .inl rfl⟩
    · refine ⟨.collecting #[], ?_, .inr rfl⟩
      rw [walk_append, walk_hunting_of_notMem _ hBody]
      rfl
  obtain ⟨phase, hWalk, hPhase⟩ := hStart
  obtain ⟨hFrames, hBetween⟩ := hBehind phase hPhase
  have hAll : walk (maxPayload + overhead) .hunting (torn ++ encodeAll messages) =
      ((walk (maxPayload + overhead) phase (encodeAll messages)).1,
        (walk (maxPayload + overhead) phase (encodeAll messages)).2) := by
    rw [walk_append, hWalk, List.nil_append]
  have hFeed := feed_eq_walk (new maxPayload) (torn ++ encodeAll messages)
  refine ⟨rfl, ?_, ?_⟩
  · exact (congrArg Prod.snd hFeed).trans ((congrArg Prod.snd hAll).trans hFrames)
  · have hPhaseAfter : ((new maxPayload).feed (torn ++ encodeAll messages)).1.phase =
        (walk (maxPayload + overhead) phase (encodeAll messages)).1 :=
      (congrArg (fun answer => answer.1.phase) hFeed).trans (congrArg Prod.fst hAll)
    rw [hPhaseAfter]
    exact hBetween

theorem Carries.wire_ne_nil {maxPayload : Nat} {decoder : Decoder} {wire : List UInt8}
    {frames : List Frame} (h : Carries maxPayload decoder wire frames) (hFrames : frames ≠ []) :
    wire ≠ [] := by
  rintro rfl
  exact hFrames (h.frames.symm.trans rfl)

end Decoder

theorem accepted_of_le {maxPayload : Nat} (address : UInt8) {payload : List UInt8}
    (hFits : payload.length ≤ maxPayload) :
    accepted maxPayload [(address, payload)] = [⟨address, payload, true⟩] := by
  simp [accepted, hFits]

theorem address_of_mem_accepted {maxPayload : Nat} {address : UInt8} {payload : List UInt8}
    {frame : Frame} (h : frame ∈ accepted maxPayload [(address, payload)]) :
    frame.address = address := by
  obtain ⟨message, hMessage, rfl⟩ := List.mem_map.mp h
  exact congrArg Prod.fst (List.mem_singleton.mp (List.mem_filter.mp hMessage).1)

end DeviceRig.Frame
