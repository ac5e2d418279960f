import DeviceRig.Frame.Decoder
import DeviceRig.Proofs.Frame.Stuffing

/-!
# The decoder on whole streams

The wire is cut at its flags and every piece is read on its own. The phase of
the decoder inside a piece is a function of the bytes of that piece alone, so
the frames that it returns are those of the pieces, wherever the stream was
cut into feeds.
-/
namespace DeviceRig.Frame

/-- The frame that a piece between two flags stands for, if it is one. -/
def ofPiece? (maxPayload : Nat) (piece : List UInt8) : Option Frame :=
  match unstuff piece with
  | none => none
  | some body =>
    if body.length < 5 ∨ maxPayload + 5 < body.length then none
    else
      let content := body.take (body.length - 4)
      some {
        address := body.headD 0
        payload := content.tail
        valid := (checksum content).toNat = littleEndian (body.drop (body.length - 4)) }

theorem ofBody?_eq (body : List UInt8) :
    ofBody? body =
      if body.length < 5 then none
      else
        let content := body.take (body.length - 4)
        some {
          address := body.headD 0
          payload := content.tail
          valid := (checksum content).toNat = littleEndian (body.drop (body.length - 4)) } := by
  unfold ofBody?
  by_cases hShort : body.length < 5
  · rw [if_pos hShort, if_pos (show body.length < overhead from hShort)]
  · rw [if_neg hShort, if_neg (show ¬ body.length < overhead from hShort)]
    have hLast : (body.drop (body.length - 4)).length = 4 := by
      rw [List.length_drop]
      omega
    cases body with
    | nil => exact absurd (by decide) hShort
    | cons address rest =>
      obtain ⟨count, hCount⟩ : ∃ count, (address :: rest).length - 4 = count + 1 :=
        ⟨(address :: rest).length - 5, by omega⟩
      rw [hCount] at hLast ⊢
      simp only [List.take_succ_cons, List.headD_cons, List.tail_cons, Option.some.injEq,
        Frame.mk.injEq, true_and]
      exact decide_eq_decide.mpr (wordBytes_eq_iff _ _ hLast)

/-- The frames of a stream: those of the pieces between two flags, in order. The piece before the
first flag and the one behind the last flag are ignored. -/
def ofWire (maxPayload : Nat) (wire : List UInt8) : List Frame :=
  (wire.splitOn flag).tail.dropLast.filterMap (ofPiece? maxPayload)

namespace Decoder

/-- The phase behind some bytes and the frames that they complete. -/
def walk (maxBody : Nat) (phase : Phase) : List UInt8 → Phase × List Frame
  | [] => (phase, [])
  | byte :: rest =>
    let (next, frame) := step maxBody phase byte
    let (last, frames) := walk maxBody next rest
    (last, frame.toList ++ frames)

theorem run_eq_walk (maxBody : Nat) (phase : Phase) (found : Array Frame) (piece : List UInt8) :
    run maxBody phase found piece =
      ((walk maxBody phase piece).1, found ++ (walk maxBody phase piece).2.toArray) := by
  induction piece generalizing phase found with
  | nil => simp [run, walk]
  | cons byte rest ih =>
    rw [run, walk]
    split
    · rename_i next hStep
      simp [hStep, ih]
    · rename_i next frame hStep
      simp [hStep, ih]

theorem feed_eq_walk (decoder : Decoder) (piece : List UInt8) :
    decoder.feed piece =
      ({ decoder with phase := (walk decoder.maxBody decoder.phase piece).1 },
        (walk decoder.maxBody decoder.phase piece).2) := by
  simp [feed, run_eq_walk]

theorem walk_append (maxBody : Nat) (phase : Phase) (first second : List UInt8) :
    walk maxBody phase (first ++ second) =
      ((walk maxBody (walk maxBody phase first).1 second).1,
        (walk maxBody phase first).2 ++ (walk maxBody (walk maxBody phase first).1 second).2) := by
  induction first generalizing phase with
  | nil => simp [walk]
  | cons byte rest ih => simp [walk, ih]

theorem feed_append (decoder : Decoder) (first second : List UInt8) :
    decoder.feed (first ++ second) =
      (((decoder.feed first).1.feed second).1,
        (decoder.feed first).2 ++ ((decoder.feed first).1.feed second).2) := by
  simp [feed_eq_walk, walk_append]

end Decoder

/-- An unfinished piece: the bytes that it stands for so far, and whether its last byte is an escape
that waits for the next one. -/
structure Unfinished where
  body : List UInt8
  escaped : Bool

namespace Unfinished

def take (piece : Unfinished) (byte : UInt8) : Unfinished :=
  if piece.escaped then ⟨piece.body ++ [byte ^^^ escapeMask], false⟩
  else if byte = escape then ⟨piece.body, true⟩
  else ⟨piece.body ++ [byte], false⟩

def ofBytes (bytes : List UInt8) : Unfinished :=
  bytes.foldl take ⟨[], false⟩

theorem ofBytes_append (bytes : List UInt8) (byte : UInt8) :
    ofBytes (bytes ++ [byte]) = (ofBytes bytes).take byte := by
  rw [ofBytes, List.foldl_append]
  rfl

theorem take_escaped (body : List UInt8) (byte : UInt8) :
    take ⟨body, true⟩ byte = ⟨body ++ [byte ^^^ escapeMask], false⟩ := rfl

theorem take_escape (body : List UInt8) : take ⟨body, false⟩ escape = ⟨body, true⟩ := rfl

theorem take_plain (body : List UInt8) {byte : UInt8} (hByte : byte ≠ escape) :
    take ⟨body, false⟩ byte = ⟨body ++ [byte], false⟩ := by
  simp [take, hByte]

theorem foldl_take_eq_unstuff (body bytes : List UInt8) :
    (unstuff bytes).map (body ++ ·) =
      if (bytes.foldl take ⟨body, false⟩).escaped then none
      else some (bytes.foldl take ⟨body, false⟩).body := by
  fun_induction unstuff bytes generalizing body with
  | case1 => simp
  | case2 => simp [take_escape]
  | case3 byte hByte => simp [take_plain body hByte]
  | case4 next rest ih =>
    rw [List.foldl_cons, List.foldl_cons, take_escape, take_escaped,
      ← ih (body ++ [next ^^^ escapeMask])]
    simp [Function.comp_def]
  | case5 byte next rest hByte ih =>
    rw [List.foldl_cons, take_plain body hByte, ← ih (body ++ [byte])]
    simp [Function.comp_def]

theorem unstuff_eq (bytes : List UInt8) :
    unstuff bytes = if (ofBytes bytes).escaped then none else some (ofBytes bytes).body := by
  have h := foldl_take_eq_unstuff [] bytes
  rwa [show (([] : List UInt8) ++ ·) = id from rfl, Option.map_id] at h

end Unfinished

namespace Decoder

/-- The phase inside a piece, from the bytes of the piece alone. -/
def phaseIn (maxBody : Nat) (piece : List UInt8) : Phase :=
  let unfinished := Unfinished.ofBytes piece
  if maxBody < unfinished.body.length then .overflowing
  else if unfinished.escaped then .escaped unfinished.body.toArray
  else .collecting unfinished.body.toArray

theorem phaseIn_nil (maxBody : Nat) : phaseIn maxBody [] = .collecting #[] := rfl

theorem hold_eq (maxBody : Nat) (body : List UInt8) (byte : UInt8) (hBody : body.length ≤ maxBody) :
    hold maxBody body.toArray byte =
      if maxBody < (body ++ [byte]).length then .overflowing
      else .collecting (body ++ [byte]).toArray := by
  simp only [hold, List.size_toArray, List.length_append, List.length_singleton,
    List.push_toArray]
  split <;> split <;> first | rfl | omega

/-- A byte inside a piece takes the phase of the bytes before it to that of the bytes with it. -/
theorem step_phaseIn (maxBody : Nat) (piece : List UInt8) {byte : UInt8} (hByte : byte ≠ flag) :
    step maxBody (phaseIn maxBody piece) byte = (phaseIn maxBody (piece ++ [byte]), none) := by
  unfold phaseIn
  rw [Unfinished.ofBytes_append]
  rcases Unfinished.ofBytes piece with ⟨body, escaped⟩
  by_cases hFull : maxBody < body.length
  · have hStays : maxBody < ((Unfinished.mk body escaped).take byte).body.length := by
      unfold Unfinished.take
      split
      · simp only [List.length_append]
        omega
      · split
        · exact hFull
        · simp only [List.length_append]
          omega
    simp only [hFull, hStays, if_true, step, if_neg hByte]
  · have hFits := Nat.le_of_not_lt hFull
    cases escaped with
    | true =>
      rw [Unfinished.take_escaped]
      simp only [if_neg hFull, if_true, step, if_neg hByte]
      rw [hold_eq maxBody body _ hFits]
      rfl
    | false =>
      by_cases hEscape : byte = escape
      · subst hEscape
        rw [Unfinished.take_escape]
        simp [hFull, step, hByte]
      · rw [Unfinished.take_plain body hEscape]
        simp only [if_neg hFull, step, if_neg hByte, if_neg hEscape, Bool.false_eq_true, if_false]
        rw [hold_eq maxBody body _ hFits]

theorem step_phaseIn_flag (maxPayload : Nat) (piece : List UInt8) :
    step (maxPayload + overhead) (phaseIn (maxPayload + overhead) piece) flag =
      (.collecting #[], ofPiece? maxPayload piece) := by
  unfold phaseIn ofPiece?
  rw [Unfinished.unstuff_eq]
  rcases Unfinished.ofBytes piece with ⟨body, escaped⟩
  by_cases hFull : maxPayload + overhead < body.length
  · have hLong : maxPayload + 5 < body.length := hFull
    cases escaped <;> simp [step, hFull, hLong]
  · cases escaped with
    | true => simp [step, hFull]
    | false =>
      have hShort : ¬ maxPayload + 5 < body.length := hFull
      simp only [hFull, Bool.false_eq_true, if_false, step, if_true, ofBody?_eq, hShort,
        or_false]

theorem modifyHead_nil_append (pieces : List (List UInt8)) :
    pieces.modifyHead (([] : List UInt8) ++ ·) = pieces := by
  cases pieces <;> rfl

theorem walk_phaseIn (maxPayload : Nat) (piece wire : List UInt8) :
    (walk (maxPayload + overhead) (phaseIn (maxPayload + overhead) piece) wire).2 =
      ((wire.splitOn flag).modifyHead (piece ++ ·)).dropLast.filterMap (ofPiece? maxPayload) := by
  induction wire generalizing piece with
  | nil => simp [walk]
  | cons byte rest ih =>
    rw [walk, List.splitOn_cons_eq_if_modifyHead]
    by_cases hByte : byte = flag
    · subst hByte
      have hRest := ih []
      rw [phaseIn_nil, modifyHead_nil_append] at hRest
      simp only [step_phaseIn_flag, hRest, beq_self_eq_true, if_true, List.modifyHead_cons,
        List.append_nil]
      rw [List.dropLast_cons_of_ne_nil (List.splitOn_ne_nil flag rest), List.filterMap_cons]
      cases ofPiece? maxPayload piece <;> rfl
    · have hSplit : (byte == flag) = false := beq_false_of_ne hByte
      simp only [step_phaseIn (maxPayload + overhead) piece hByte, ih, hSplit, Bool.false_eq_true,
        if_false, List.modifyHead_modifyHead]
      simp [Function.comp_def]

theorem walk_hunting (maxPayload : Nat) (wire : List UInt8) :
    (walk (maxPayload + overhead) .hunting wire).2 = ofWire maxPayload wire := by
  induction wire with
  | nil => rfl
  | cons byte rest ih =>
    rw [walk, ofWire, List.splitOn_cons_eq_if_modifyHead]
    by_cases hByte : byte = flag
    · subst hByte
      have hRest := walk_phaseIn maxPayload [] rest
      rw [phaseIn_nil, modifyHead_nil_append] at hRest
      simpa [step] using hRest
    · have hTail :
          ((rest.splitOn flag).modifyHead (byte :: ·)).tail = (rest.splitOn flag).tail := by
        cases rest.splitOn flag <;> rfl
      simp only [step, if_neg hByte, ih, beq_false_of_ne hByte, Bool.false_eq_true, if_false, hTail]
      rfl

theorem feed_new (maxPayload : Nat) (wire : List UInt8) :
    ((new maxPayload).feed wire).2 = ofWire maxPayload wire := by
  rw [feed_eq_walk]
  exact walk_hunting maxPayload wire

inductive Operation where
  | feed (chunk : List UInt8)
  | reset

/-- A decoder in use, with the bytes fed to it and the frames that it returned since its last
reset. -/
structure Usage where
  decoder : Decoder
  fed : List UInt8
  returned : List Frame

namespace Usage

def start (maxPayload : Nat) : Usage :=
  ⟨.new maxPayload, [], []⟩

def perform (usage : Usage) : Operation → Usage
  | .feed chunk =>
    let (decoder, frames) := usage.decoder.feed chunk
    ⟨decoder, usage.fed ++ chunk, usage.returned ++ frames⟩
  | .reset => ⟨usage.decoder.reset, [], []⟩

def after (maxPayload : Nat) (operations : List Operation) : Usage :=
  operations.foldl perform (start maxPayload)

/-- What holds of a usage: a fresh decoder fed with all bytes at once is where this one is. -/
def Replays (maxPayload : Nat) (usage : Usage) : Prop :=
  (new maxPayload).feed usage.fed = (usage.decoder, usage.returned)

theorem Replays.perform {maxPayload : Nat} {usage : Usage} (h : usage.Replays maxPayload)
    (operation : Operation) : (usage.perform operation).Replays maxPayload := by
  cases operation with
  | feed chunk =>
    simp only [Replays] at h
    simp only [Replays, Usage.perform, feed_append, h]
  | reset =>
    have hMax : usage.decoder.maxBody = maxPayload + overhead := by
      have hDecoder := congrArg (fun answer => answer.1.maxBody) h
      simpa [feed_eq_walk, new] using hDecoder.symm
    simp [Replays, Usage.perform, feed_eq_walk, walk, new, reset, hMax]

theorem Replays.foldl {maxPayload : Nat} {usage : Usage} (h : usage.Replays maxPayload)
    (operations : List Operation) : (operations.foldl Usage.perform usage).Replays maxPayload := by
  induction operations generalizing usage with
  | nil => exact h
  | cons operation rest ih => exact ih (h.perform operation)

theorem replays_after (maxPayload : Nat) (operations : List Operation) :
    (after maxPayload operations).Replays maxPayload := by
  have hStart : (start maxPayload).Replays maxPayload := by
    simp [Replays, start, feed_eq_walk, walk, new]
  exact hStart.foldl operations

/-- However a stream is cut into feeds, the frames returned since the last reset are those of the
bytes fed since then. -/
theorem returned_eq_ofWire (maxPayload : Nat) (operations : List Operation) :
    (after maxPayload operations).returned =
      ofWire maxPayload (after maxPayload operations).fed := by
  rw [← feed_new, replays_after maxPayload operations]

end Usage

end Decoder

end DeviceRig.Frame
