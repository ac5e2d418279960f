import DeviceRig.Proofs.Frame.Remainder
import DeviceRig.Proofs.Frame.Resynchronisation
import Mathlib.Data.List.Forall2

/-!
# Corrupt frames

A burst alters up to four wire bytes in a row inside a frame and neither makes
nor destroys a flag or an escape. It leaves the stuffing as it is, so the body
is as long as before and differs in at most four bytes in a row, which its
checksum detects. Frames behind the corrupt one are not touched.
-/
namespace DeviceRig.Frame

/-- What may become of a wire byte in a burst: it is kept, or an ordinary byte becomes another
one. -/
def MayBecome (old new : UInt8) : Prop :=
  old = new ∨ ((old ≠ flag ∧ old ≠ escape) ∧ (new ≠ flag ∧ new ≠ escape))

instance (old new : UInt8) : Decidable (MayBecome old new) :=
  inferInstanceAs (Decidable (_ ∨ _))

/-- A wire that a burst has hit: four bytes in a row between its first and its last byte may have
changed, and at least one has. -/
inductive Burst (wire : List UInt8) : List UInt8 → Prop where
  | hit {before old new behind : List UInt8}
      (hWire : wire = flag :: (before ++ old ++ behind) ++ [flag]) (hLength : old.length = 4)
      (hNew : List.Forall₂ MayBecome old new) (hOther : old ≠ new) :
      Burst wire (flag :: (before ++ new ++ behind) ++ [flag])

theorem MayBecome.flag_iff {old new : UInt8} (h : MayBecome old new) :
    old = flag ↔ new = flag := by
  rcases h with rfl | ⟨⟨hOld, -⟩, hNew, -⟩
  · exact Iff.rfl
  · exact iff_of_false hOld hNew

theorem MayBecome.escape_iff {old new : UInt8} (h : MayBecome old new) :
    old = escape ↔ new = escape := by
  rcases h with rfl | ⟨⟨-, hOld⟩, -, hNew⟩
  · exact Iff.rfl
  · exact iff_of_false hOld hNew

theorem flag_notMem_burst {old new : List UInt8} (hNew : List.Forall₂ MayBecome old new)
    (hOld : flag ∉ old) : flag ∉ new := by
  induction hNew with
  | nil => exact hOld
  | cons hByte hRest ih =>
    rw [List.mem_cons, not_or] at hOld ⊢
    exact ⟨fun hFlag => hOld.1 (hByte.flag_iff.mpr hFlag.symm).symm, ih hOld.2⟩

namespace Unfinished

def takeAll (escaped : Bool) (bytes : List UInt8) : Unfinished :=
  bytes.foldl take ⟨[], escaped⟩

theorem take_eq (piece : Unfinished) (byte : UInt8) :
    piece.take byte =
      ⟨piece.body ++ (take ⟨[], piece.escaped⟩ byte).body,
        (take ⟨[], piece.escaped⟩ byte).escaped⟩ := by
  obtain ⟨body, escaped⟩ := piece
  unfold take
  cases escaped with
  | true => rfl
  | false => by_cases hEscape : byte = escape <;> simp [hEscape]

theorem foldl_take_eq (piece : Unfinished) (bytes : List UInt8) :
    bytes.foldl take piece =
      ⟨piece.body ++ (takeAll piece.escaped bytes).body,
        (takeAll piece.escaped bytes).escaped⟩ := by
  induction bytes generalizing piece with
  | nil => simp [takeAll]
  | cons byte rest ih =>
    rw [takeAll, List.foldl_cons, List.foldl_cons, ih, ih (take _ byte), take_eq piece]
    simp

theorem ofBytes_append_all (bytes more : List UInt8) :
    ofBytes (bytes ++ more) =
      ⟨(ofBytes bytes).body ++ (takeAll (ofBytes bytes).escaped more).body,
        (takeAll (ofBytes bytes).escaped more).escaped⟩ := by
  rw [ofBytes, List.foldl_append]
  exact foldl_take_eq _ more

/-- A burst on the wire is a burst on the body: as many bytes come out of it, at most as many as
went in, and they are different if any of the wire bytes is. -/
structure SameShape (old new : List UInt8) (before after : Unfinished) : Prop where
  escaped : before.escaped = after.escaped
  length : before.body.length = after.body.length
  short : before.body.length ≤ old.length
  differs : before.body = after.body → old = new

theorem sameShape_byte {old new : UInt8} (h : MayBecome old new) (escaped : Bool) :
    SameShape [old] [new] (take ⟨[], escaped⟩ old) (take ⟨[], escaped⟩ new) := by
  cases escaped with
  | true =>
    refine ⟨rfl, rfl, Nat.le_refl _, ?_⟩
    intro hBodies
    rw [take_escaped, take_escaped, List.nil_append, List.nil_append, List.cons.injEq] at hBodies
    rw [(UInt8.xor_left_inj escapeMask).mp hBodies.1]
  | false =>
    by_cases hEscape : old = escape
    · have hNew := h.escape_iff.mp hEscape
      subst hEscape hNew
      exact ⟨rfl, rfl, Nat.zero_le _, fun _ => rfl⟩
    · have hNew : new ≠ escape := mt h.escape_iff.mpr hEscape
      rw [take_plain [] hEscape, take_plain [] hNew]
      exact ⟨rfl, rfl, Nat.le_refl _, id⟩

theorem takeAll_cons (escaped : Bool) (byte : UInt8) (rest : List UInt8) :
    takeAll escaped (byte :: rest) =
      ⟨(take ⟨[], escaped⟩ byte).body ++ (takeAll (take ⟨[], escaped⟩ byte).escaped rest).body,
        (takeAll (take ⟨[], escaped⟩ byte).escaped rest).escaped⟩ :=
  foldl_take_eq _ rest

theorem sameShape_burst {old new : List UInt8} (hNew : List.Forall₂ MayBecome old new)
    (escaped : Bool) : SameShape old new (takeAll escaped old) (takeAll escaped new) := by
  induction hNew generalizing escaped with
  | nil => exact ⟨rfl, rfl, Nat.le_refl _, fun _ => rfl⟩
  | @cons byte other rest more hByte hRest ih =>
    obtain ⟨hEscaped, hLength, hShort, hDiffers⟩ := sameShape_byte hByte escaped
    obtain ⟨hEscapedRest, hLengthRest, hShortRest, hDiffersRest⟩ :=
      ih (take ⟨[], escaped⟩ byte).escaped
    rw [takeAll_cons, takeAll_cons, ← hEscaped]
    refine ⟨hEscapedRest, ?_, ?_, ?_⟩
    · simp only [List.length_append, hLength, hLengthRest]
    · simp only [List.length_append, List.length_cons, List.length_nil] at hShort ⊢
      omega
    · intro hBodies
      obtain ⟨hFirst, hOthers⟩ := List.append_inj hBodies hLength
      rw [List.cons.injEq]
      exact ⟨(List.cons.inj (hDiffers hFirst)).1, hDiffersRest hOthers⟩

end Unfinished

/-- The bodies before and after a burst: as long as each other, with at most four bytes in a row
between the same ones, and these are not the same. -/
theorem unstuff_burst {before old new behind body : List UInt8} (hLength : old.length ≤ 4)
    (hNew : List.Forall₂ MayBecome old new) (hOther : old ≠ new)
    (hBody : unstuff (before ++ old ++ behind) = some body) :
    ∃ first inner other last, body = first ++ inner ++ last ∧
      unstuff (before ++ new ++ behind) = some (first ++ other ++ last) ∧
      inner.length = other.length ∧ inner.length ≤ 4 ∧ inner ≠ other := by
  obtain ⟨hEscaped, hSame, hShort, hDiffers⟩ :=
    Unfinished.sameShape_burst hNew (Unfinished.ofBytes before).escaped
  rw [Unfinished.unstuff_eq, Unfinished.ofBytes_append_all,
    Unfinished.ofBytes_append_all] at hBody ⊢
  rw [← hEscaped]
  split at hBody
  · cases hBody
  · rename_i hEnd
    cases hBody
    rw [if_neg hEnd]
    refine ⟨_, _, _, _, rfl, rfl, hSame, by omega, ?_⟩
    intro hInner
    exact hOther (hDiffers hInner)

/-- A body with its checksum is no longer one if up to four bytes in a row become others. -/
theorem checksum_of_burst {content sum first inner other last : List UInt8}
    (hBody : content ++ wordBytes (checksum content) = first ++ inner ++ last)
    (hLength : inner.length = other.length) (hShort : inner.length ≤ 4) (hOther : inner ≠ other)
    {altered : List UInt8} (hAltered : altered ++ sum = first ++ other ++ last)
    (hSum : sum.length = 4) : sum ≠ wordBytes (checksum altered) := by
  intro hValid
  have hBefore := (eq_wordBytes_checksum_iff content (wordBytes_length _)).mp rfl
  have hAfter := (eq_wordBytes_checksum_iff altered hSum).mp hValid
  rw [hBody, List.foldl_append] at hBefore
  rw [hAltered, List.foldl_append] at hAfter
  have hSame := foldl_shiftByte_injective last (hBefore.trans hAfter.symm)
  rw [List.foldl_append, List.foldl_append] at hSame
  exact hOther (eq_of_foldl_shiftByte hLength hShort hSame)

theorem ofPiece?_burst {maxPayload : Nat} {address : UInt8} {payload : List UInt8}
    (hFits : payload.length ≤ maxPayload) {before old new behind : List UInt8}
    (hPiece : (body address payload).flatMap stuff = before ++ old ++ behind)
    (hLength : old.length = 4) (hNew : List.Forall₂ MayBecome old new) (hOther : old ≠ new) :
    ∃ frame, frame.valid = false ∧
      ofPiece? maxPayload (before ++ new ++ behind) = some frame := by
  have hUnstuffed := unstuff_stuffed (body address payload)
  rw [hPiece] at hUnstuffed
  obtain ⟨first, inner, other, last, hBody, hAltered, hSame, hShort, hDiffers⟩ :=
    unstuff_burst (Nat.le_of_eq hLength) hNew hOther hUnstuffed
  have hSize : (first ++ other ++ last).length = payload.length + 5 := by
    rw [← body_length address payload, hBody]
    simp only [List.length_append, hSame]
  rw [ofPiece?, hAltered]
  dsimp only
  rw [if_neg (by omega)]
  refine ⟨_, ?_, rfl⟩
  generalize hAll : first ++ other ++ last = altered at hSize
  have hSum : (altered.drop (altered.length - 4)).length = 4 := by
    rw [List.length_drop]
    omega
  have hTaken : altered.take (altered.length - 4) ++ altered.drop (altered.length - 4) =
      first ++ other ++ last := by
    rw [List.take_append_drop, hAll]
  rw [decide_eq_false_iff_not, ← wordBytes_eq_iff _ _ hSum]
  rw [body] at hBody
  exact checksum_of_burst hBody hSame hShort hDiffers hTaken hSum

theorem walk_burst {maxPayload : Nat} {address : UInt8} {payload wire : List UInt8}
    (hFits : payload.length ≤ maxPayload) (hBurst : Burst (encode address payload) wire) :
    ∃ frame, frame.valid = false ∧
      Decoder.walk (maxPayload + overhead) .hunting wire = (.collecting #[], [frame]) := by
  obtain ⟨hWire, hLength, hNew, hOther⟩ := hBurst
  rename_i before old new behind
  have hPiece : (body address payload).flatMap stuff = before ++ old ++ behind := by
    rw [encode, List.append_left_inj, List.cons.injEq] at hWire
    exact hWire.2
  have hFree := flag_notMem_stuffed (body address payload)
  rw [hPiece, List.mem_append, List.mem_append, not_or, not_or] at hFree
  obtain ⟨⟨hBefore, hOld⟩, hBehind⟩ := hFree
  have hClosed : flag ∉ before ++ new ++ behind := by
    rw [List.mem_append, List.mem_append, not_or, not_or]
    exact ⟨⟨hBefore, flag_notMem_burst hNew hOld⟩, hBehind⟩
  obtain ⟨frame, hInvalid, hFrame⟩ := ofPiece?_burst hFits hPiece hLength hNew hOther
  refine ⟨frame, hInvalid, ?_⟩
  have hOpens (rest : List UInt8) :
      Decoder.walk (maxPayload + overhead) .hunting (flag :: rest) =
        Decoder.walk (maxPayload + overhead) (.collecting #[]) rest := rfl
  rw [List.cons_append, hOpens, Decoder.walk_piece maxPayload _ hClosed, hFrame]
  rfl

namespace Decoder.Usage

/-- A frame carries the IEEE checksum of its address and payload, least significant byte first. A
burst of up to four bytes inside it is detected: the frame comes out of the decoder once and is not
valid, and the frames behind it come out as usual, wherever the stream is cut into feeds. -/
theorem burst_detected {maxPayload : Nat} {address : UInt8} {payload wire : List UInt8}
    (hFits : payload.length ≤ maxPayload) (hBurst : Burst (encode address payload) wire) :
    (∃ sum, (∀ word, IsChecksum (address :: payload) word ↔ word = sum) ∧
      encode address payload =
        flag :: (address :: payload ++ wordBytes sum).flatMap stuff ++ [flag] ∧
      littleEndian (wordBytes sum) = sum.toNat) ∧
    ∃ frame, frame.valid = false ∧ ((new maxPayload).feed wire).2 = [frame] ∧
      ∀ (later : List Message) (chunks : List (List UInt8)),
        chunks.flatten = wire ++ encodeAll later →
          (after maxPayload (chunks.map .feed)).returned = frame :: accepted maxPayload later := by
  obtain ⟨frame, hInvalid, hWalk⟩ := walk_burst hFits hBurst
  refine ⟨exists_checksum_encode address payload, frame, hInvalid, ?_, ?_⟩
  · rw [feed_eq_walk]
    exact congrArg Prod.snd hWalk
  · intro later chunks hChunks
    have hReplays := replays_after maxPayload (chunks.map .feed)
    rw [Replays, fed_after_feeds, hChunks, feed_eq_walk] at hReplays
    have hLater : walk (maxPayload + overhead) .hunting (wire ++ encodeAll later) =
        (.collecting #[], frame :: accepted maxPayload later) := by
      rw [walk_append, hWalk, walk_encodeAll]
      rfl
    exact (congrArg Prod.snd hReplays).symm.trans (congrArg Prod.snd hLater)

/-- A burst around an escape changes the byte behind it and a byte of the checksum. -/
theorem burst_detected_across_checksum :
    let wire : List UInt8 := [0x7E, 1, 0x7D, 0, 0x3F, 0x2F, 0x76, 0x76, 0x7E]
    ([0x7D] : List UInt8).length ≤ 1 ∧ Burst (encode 1 [0x7D]) wire ∧
      ∃ frame, frame.valid = false ∧ ((new 1).feed wire).2 = [frame] ∧
        (after 1 ([wire ++ encode 82 [5]].map .feed)).returned = [frame, ⟨82, [5], true⟩] := by
  intro wire
  have hBurst : Burst (encode 1 [0x7D]) wire :=
    @Burst.hit _ [1] [0x7D, 0x5D, 0x3F, 0x2E] [0x7D, 0, 0x3F, 0x2F] [0x76, 0x76]
      (by decide +kernel) rfl (by decide) (by decide)
  obtain ⟨-, frame, hInvalid, hFrame, hLater⟩ :=
    @burst_detected 1 1 [0x7D] wire (Nat.le_refl 1) hBurst
  refine ⟨Nat.le_refl 1, hBurst, frame, hInvalid, hFrame, ?_⟩
  exact hLater [(82, [5])] [wire ++ encode 82 [5]] rfl

end Decoder.Usage

end DeviceRig.Frame
