import DeviceRig.Proofs.Frame.Stream
import Mathlib.Data.Nat.PSub

/-!
# The decoder and its buffer

A decoder has one buffer for the body of a frame, beside a mark that says where
in the wire it stands. The buffer is emptied and filled apart from the mark, and
a complete body is read by places in it. Here all that is done step by step and
a place that the body does not have ends everything. That never happens, and the
buffer never holds more than one body: the decoder whose phase holds the bytes
does the same on every input.
-/
namespace DeviceRig.Frame

def cutAt? (bytes : List UInt8) (place : Nat) : Option (List UInt8 × List UInt8) :=
  if place ≤ bytes.length then some (bytes.splitAt place) else none

def readWord? (bytes : List UInt8) : Option Nat := do
  let first ← bytes[0]?
  let second ← bytes[1]?
  let third ← bytes[2]?
  let fourth ← bytes[3]?
  return littleEndian [first, second, third, fourth]

/-- Reads a body by places in it: the checksum is cut from its end, and the payload begins behind
the address. -/
def readBody? (body : List UInt8) : Option Frame := do
  let place ← body.length.psub 4
  let (content, last) ← cutAt? body place
  let word ← readWord? last
  let address ← content[0]?
  let (_, payload) ← cutAt? content 1
  return ⟨address, payload, (checksum content).toNat = word⟩

theorem cutAt?_of_le {bytes : List UInt8} {place : Nat} (h : place ≤ bytes.length) :
    cutAt? bytes place = some (bytes.take place, bytes.drop place) := by
  rw [cutAt?, if_pos h, List.splitAt_eq]

theorem readWord?_of_length {bytes : List UInt8} (h : bytes.length = 4) :
    readWord? bytes = some (littleEndian bytes) := by
  match bytes, h with
  | [_, _, _, _], _ => rfl

/-- The places that are read are those of the body exactly if it is long enough to be a frame. -/
theorem readBody?_eq_ofBody? (body : List UInt8) : readBody? body = ofBody? body := by
  rw [ofBody?_eq, readBody?]
  by_cases hShort : body.length < 4
  · rw [Nat.psub_eq_none.mpr hShort, if_pos (Nat.lt_succ_of_lt hShort)]
    rfl
  · obtain ⟨place, hPlace⟩ := Nat.exists_eq_add_of_le' (Nat.le_of_not_lt hShort)
    have hCut := cutAt?_of_le (show place ≤ body.length by omega)
    have hLast : (body.drop place).length = 4 := by
      rw [List.length_drop]
      omega
    simp only [Nat.psub_eq_some.mpr hPlace.symm, Option.bind_eq_bind, Option.bind_some, hCut,
      readWord?_of_length hLast]
    cases place with
    | zero =>
      -- Four bytes are all checksum, and there is no address to read.
      rw [if_pos (by omega)]
      rfl
    | succ count =>
      obtain ⟨address, rest, rfl⟩ : ∃ address rest, body = address :: rest :=
        List.exists_cons_of_length_eq_add_one hPlace
      have hBehind := cutAt?_of_le (show 1 ≤ (address :: rest.take count).length from
        Nat.succ_le_succ (Nat.zero_le _))
      rw [if_neg (by omega), hPlace, Nat.add_sub_cancel]
      simp only [List.take_succ_cons, List.getElem?_cons_zero, Option.bind_some, hBehind]
      rfl

theorem ofBody?_eq_none_iff (body : List UInt8) : ofBody? body = none ↔ body.length < overhead := by
  rw [ofBody?_eq]
  by_cases hShort : body.length < 5
  · exact iff_of_true (if_pos hShort) hShort
  · rw [if_neg hShort]
    exact iff_of_false nofun hShort

theorem length_of_ofBody? {body : List UInt8} {frame : Frame} (h : ofBody? body = some frame) :
    frame.payload.length + overhead = body.length := by
  rw [ofBody?_eq] at h
  by_cases hShort : body.length < 5
  · rw [if_pos hShort] at h
    cases h
  · rw [if_neg hShort] at h
    cases h
    simp only [List.length_tail, List.length_take, overhead]
    omega

namespace Decoder

/-- Where a decoder stands, apart from the bytes that it holds. -/
inductive Mark where
  | hunting
  | collecting
  | escaped
  | overflowing
deriving DecidableEq

structure Buffered where
  maxBody : Nat
  mark : Mark
  body : Array UInt8

namespace Buffered

def new (maxPayload : Nat) : Buffered :=
  ⟨maxPayload + overhead, .hunting, #[]⟩

def clear (buffered : Buffered) (mark : Mark) : Buffered :=
  { buffered with body := #[], mark }

def push (buffered : Buffered) (byte : UInt8) : Buffered :=
  if buffered.maxBody ≤ buffered.body.size then buffered.clear .overflowing
  else { buffered with body := buffered.body.push byte }

/-- Takes a complete body out of the buffer and reads it. A body too short for a frame stays. -/
def finish? (buffered : Buffered) : Option (Buffered × Option Frame) :=
  if buffered.body.isEmpty then some (buffered, none)
  else if buffered.body.size < overhead then some (buffered, none)
  else (readBody? buffered.body.toList).map fun frame => ({ buffered with body := #[] }, some frame)

/-- What one byte does. Nothing comes of it if a place was read that the body does not have. -/
def step? (buffered : Buffered) (byte : UInt8) : Option (Buffered × List Frame) :=
  match buffered.mark with
  | .hunting | .overflowing =>
    some (if byte = flag then buffered.clear .collecting else buffered, [])
  | .collecting =>
    if byte = flag then do
      let (finished, frame) ← buffered.finish?
      return (finished.clear .collecting, frame.toList)
    else if byte = escape then some ({ buffered with mark := .escaped }, [])
    else some (buffered.push byte, [])
  | .escaped =>
    if byte = flag then some (buffered.clear .collecting, [])
    -- The escape is over before its byte is pushed, so that the mark of an overflow stays.
    else some ({ buffered with mark := .collecting }.push (byte ^^^ escapeMask), [])

def andThen (reached : Option (Buffered × List Frame))
    (rest : Buffered → Option (Buffered × List Frame)) : Option (Buffered × List Frame) := do
  let (next, frames) ← reached
  let (last, more) ← rest next
  return (last, frames ++ more)

def feed? (buffered : Buffered) : List UInt8 → Option (Buffered × List Frame)
  | [] => some (buffered, [])
  | byte :: rest => andThen (buffered.step? byte) fun next => next.feed? rest

def perform? (buffered : Buffered) : Operation → Option (Buffered × List Frame)
  | .feed chunk => buffered.feed? chunk
  | .reset => some (buffered.clear .hunting, [])

def performAll? (buffered : Buffered) : List Operation → Option (Buffered × List Frame)
  | [] => some (buffered, [])
  | operation :: rest => andThen (buffered.perform? operation) fun next => next.performAll? rest

def decoder (buffered : Buffered) : Decoder where
  maxBody := buffered.maxBody
  phase :=
    match buffered.mark with
    | .hunting => .hunting
    | .collecting => .collecting buffered.body
    | .escaped => .escaped buffered.body
    | .overflowing => .overflowing

end Buffered

def perform (decoder : Decoder) : Operation → Decoder × List Frame
  | .feed chunk => decoder.feed chunk
  | .reset => (decoder.reset, [])

/-- What becomes of a decoder, and every frame that it returns, also before a reset. -/
def performAll (decoder : Decoder) : List Operation → Decoder × List Frame
  | [] => (decoder, [])
  | operation :: rest =>
    let (next, frames) := decoder.perform operation
    let (last, more) := next.performAll rest
    (last, frames ++ more)

theorem feed_singleton (decoder : Decoder) (byte : UInt8) :
    decoder.feed [byte] =
      ({ decoder with phase := (step decoder.maxBody decoder.phase byte).1 },
        (step decoder.maxBody decoder.phase byte).2.toList) := by
  simp only [feed_eq_walk, walk, List.append_nil]

namespace Buffered

variable {maxBody : Nat} {buffered : Buffered}

structure Bounded (maxBody : Nat) (buffered : Buffered) : Prop where
  limit : buffered.maxBody = maxBody
  size : buffered.body.size ≤ maxBody
  empty : buffered.mark = .hunting ∨ buffered.mark = .overflowing → buffered.body = #[]

theorem bounded_clear (h : buffered.maxBody = maxBody) (mark : Mark) :
    (buffered.clear mark).Bounded maxBody where
  limit := h
  size := Nat.zero_le _
  empty _ := rfl

theorem Bounded.withMark (h : buffered.Bounded maxBody) {mark : Mark}
    (hMark : mark = .collecting ∨ mark = .escaped) :
    Bounded maxBody { buffered with mark } where
  limit := h.limit
  size := h.size
  empty hEmpty := by
    rcases hMark with rfl | rfl <;> simp at hEmpty

theorem Bounded.push (h : buffered.Bounded maxBody) (hMark : buffered.mark = .collecting)
    (byte : UInt8) : (buffered.push byte).Bounded maxBody := by
  unfold Buffered.push
  split
  · exact bounded_clear h.limit .overflowing
  · rename_i hRoom
    rw [h.limit, Nat.not_le] at hRoom
    refine ⟨h.limit, ?_, ?_⟩
    · rw [Array.size_push]
      exact hRoom
    · simp [hMark]

theorem decoder_push (hMark : buffered.mark = .collecting) (byte : UInt8) :
    (buffered.push byte).decoder =
      ⟨buffered.maxBody, hold buffered.maxBody buffered.body byte⟩ := by
  unfold Buffered.push hold
  split
  · rename_i hFull
    rw [if_neg (Nat.not_lt.mpr hFull)]
    rfl
  · rename_i hRoom
    rw [if_pos (Nat.not_le.mp hRoom), Buffered.decoder, hMark]

theorem finish?_eq (buffered : Buffered) :
    ∃ finished, buffered.finish? = some (finished, ofBody? buffered.body.toList) ∧
      finished.maxBody = buffered.maxBody := by
  have hNone := ofBody?_eq_none_iff buffered.body.toList
  by_cases hShort : buffered.body.size < overhead
  · exact ⟨buffered, by rw [finish?, if_pos hShort, ite_self, hNone.mpr hShort], rfl⟩
  · obtain ⟨frame, hFrame⟩ := Option.ne_none_iff_exists'.mp (mt hNone.mp hShort)
    have hFilled : ¬ buffered.body.isEmpty := by
      intro hEmpty
      rw [Array.isEmpty_iff.mp hEmpty] at hShort
      exact hShort (by decide)
    rw [finish?, if_neg hFilled, if_neg hShort, readBody?_eq_ofBody?, hFrame]
    exact ⟨_, rfl, rfl⟩

/-- Some bytes were taken without fail, as by the decoder that holds its bytes in its phase, and
neither the buffer nor a frame has more bytes than a body may have. -/
def Tracks (maxBody : Nat) (outcome : Option (Buffered × List Frame))
    (answer : Decoder × List Frame) : Prop :=
  ∃ next, outcome = some (next, answer.2) ∧ next.decoder = answer.1 ∧ next.Bounded maxBody ∧
    ∀ frame ∈ answer.2, frame.payload.length + overhead ≤ maxBody

theorem Bounded.tracks (h : buffered.Bounded maxBody) {decoder : Decoder}
    (hDecoder : buffered.decoder = decoder) :
    Tracks maxBody (some (buffered, [])) (decoder, []) :=
  ⟨buffered, rfl, hDecoder, h, nofun⟩

theorem Tracks.andThen {reached : Option (Buffered × List Frame)} {answer : Decoder × List Frame}
    (h : Tracks maxBody reached answer) (rest : Buffered → Option (Buffered × List Frame))
    (after : Decoder → Decoder × List Frame)
    (hRest : ∀ next : Buffered, next.Bounded maxBody →
      Tracks maxBody (rest next) (after next.decoder)) :
    Tracks maxBody (Buffered.andThen reached rest)
      ((after answer.1).1, answer.2 ++ (after answer.1).2) := by
  obtain ⟨next, rfl, hNext, hBounded, hFrames⟩ := h
  obtain ⟨last, hLast, hDecoder, hLastBounded, hMore⟩ := hRest next hBounded
  rw [hNext] at hLast hDecoder hMore
  refine ⟨last, ?_, hDecoder, hLastBounded, ?_⟩
  · simp only [Buffered.andThen, Option.bind_eq_bind, Option.bind_some, hLast]
    rfl
  · intro frame hFrame
    exact (List.mem_append.mp hFrame).elim (hFrames frame) (hMore frame)

theorem Bounded.step (h : buffered.Bounded maxBody) (byte : UInt8) :
    Tracks maxBody (buffered.step? byte) (buffered.decoder.feed [byte]) := by
  rw [feed_singleton]
  obtain ⟨limit, mark, body⟩ := buffered
  have hCleared : (Buffered.clear ⟨limit, mark, body⟩ .collecting).Bounded maxBody :=
    bounded_clear h.limit .collecting
  cases mark with
  | hunting | overflowing =>
    by_cases hFlag : byte = flag
    · simp only [step?, Buffered.decoder, Decoder.step, if_pos hFlag]
      exact hCleared.tracks rfl
    · simp only [step?, Buffered.decoder, Decoder.step, if_neg hFlag]
      exact h.tracks rfl
  | collecting =>
    by_cases hFlag : byte = flag
    · obtain ⟨finished, hFinish, hLimit⟩ := finish?_eq ⟨limit, .collecting, body⟩
      simp only [step?, Buffered.decoder, Decoder.step, if_pos hFlag, hFinish,
        Option.bind_eq_bind, Option.bind_some]
      refine ⟨finished.clear .collecting, rfl, ?_, bounded_clear (hLimit.trans h.limit) _, ?_⟩
      · rw [Buffered.decoder, Buffered.clear, hLimit]
      · intro frame hFrame
        rw [length_of_ofBody? (Option.mem_toList.mp hFrame)]
        exact h.size
    · by_cases hEscape : byte = escape
      · simp only [step?, Buffered.decoder, Decoder.step, if_neg hFlag, if_pos hEscape]
        exact (h.withMark (.inr rfl)).tracks rfl
      · simp only [step?, Buffered.decoder, Decoder.step, if_neg hFlag, if_neg hEscape]
        exact (h.push rfl byte).tracks (decoder_push rfl byte)
  | escaped =>
    by_cases hFlag : byte = flag
    · simp only [step?, Buffered.decoder, Decoder.step, if_pos hFlag]
      exact hCleared.tracks rfl
    · simp only [step?, Buffered.decoder, Decoder.step, if_neg hFlag]
      exact ((h.withMark (.inl rfl)).push rfl _).tracks (decoder_push rfl _)

theorem Bounded.feed (h : buffered.Bounded maxBody) (chunk : List UInt8) :
    Tracks maxBody (buffered.feed? chunk) (buffered.decoder.feed chunk) := by
  induction chunk generalizing buffered with
  | nil => exact h.tracks rfl
  | cons byte rest ih =>
    have hAll := feed_append buffered.decoder [byte] rest
    rw [List.singleton_append] at hAll
    rw [hAll]
    exact (h.step byte).andThen (·.feed? rest) (·.feed rest) fun _ hNext => ih hNext

theorem Bounded.perform (h : buffered.Bounded maxBody) (operation : Operation) :
    Tracks maxBody (buffered.perform? operation) (buffered.decoder.perform operation) := by
  cases operation with
  | feed chunk => exact h.feed chunk
  | reset => exact (bounded_clear h.limit .hunting).tracks rfl

theorem Bounded.performAll (h : buffered.Bounded maxBody) (operations : List Operation) :
    Tracks maxBody (buffered.performAll? operations) (buffered.decoder.performAll operations) := by
  induction operations generalizing buffered with
  | nil => exact h.tracks rfl
  | cons operation rest ih =>
    exact (h.perform operation).andThen (·.performAll? rest) (·.performAll rest)
      fun _ hNext => ih hNext

end Buffered

/-- However a decoder is used, it reads no place outside of its buffer, the buffer holds one body at
most and nothing outside of a body, and no frame has a longer payload than was allowed. The first
part of a chunk is a chunk too, so this holds between any two bytes. -/
theorem performAll_bounded (maxPayload : Nat) (operations : List Operation) :
    ∃ buffered frames,
      (Buffered.new maxPayload).performAll? operations = some (buffered, frames) ∧
      (Decoder.new maxPayload).performAll operations = (buffered.decoder, frames) ∧
      buffered.body.size ≤ maxPayload + 5 ∧
      (buffered.mark = .hunting ∨ buffered.mark = .overflowing → buffered.body = #[]) ∧
      buffered.finish?.isSome ∧
      ∀ frame ∈ frames, frame.payload.length ≤ maxPayload := by
  have hNew : (Buffered.new maxPayload).Bounded (maxPayload + overhead) :=
    ⟨rfl, Nat.zero_le _, fun _ => rfl⟩
  obtain ⟨buffered, hOutcome, hDecoder, hBounded, hFrames⟩ := hNew.performAll operations
  obtain ⟨finished, hFinish, -⟩ := buffered.finish?_eq
  refine ⟨buffered, _, hOutcome, Prod.ext hDecoder.symm rfl, hBounded.size, hBounded.empty, ?_, ?_⟩
  · rw [hFinish]
    rfl
  · intro frame hFrame
    exact Nat.le_of_add_le_add_right (hFrames frame hFrame)

-- Without any payload five bytes fill the buffer, and the sixth empties it.
example : ((Buffered.new 0).feed? [flag, 1, 2, 3, 4, 5]).map (·.1.body) =
    some #[1, 2, 3, 4, 5] := by
  decide

example : ((Buffered.new 0).feed? [flag, 1, 2, 3, 4, 5, 6]).map (fun reached =>
    (reached.1.mark, reached.1.body)) = some (.overflowing, #[]) := by
  decide

end Decoder

end DeviceRig.Frame
