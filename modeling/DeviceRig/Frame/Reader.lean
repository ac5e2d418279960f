import DeviceRig.Frame.Decoder
import DeviceRig.Frame.Error

/-!
The blocking reader. It takes frames from a stream whose reads are given by a script: pieces of
data, ends of stream and failures, in any order. The stream is read only while no decoded frame is
waiting, an interrupted read is tried again, and every other failure and every end of stream is
reported once and loses nothing that was received.
-/
namespace DeviceRig.Frame

def readSize : Nat := 4096

/-- What a read meets: data, where no bytes are the end of the stream for that read, or a
failure. -/
inductive ReadEvent where
  | data (bytes : List UInt8)
  | fault (fault : Fault)
deriving DecidableEq, Repr, Inhabited

namespace ReadEvent

def weight : List ReadEvent → Nat
  | [] => 0
  | .data bytes :: rest => bytes.length + 1 + weight rest
  | .fault _ :: rest => 1 + weight rest

/-- One read: its outcome and the events left. Bytes beyond the read size stay the next event. -/
def next : List ReadEvent → Except Fault (List UInt8) × List ReadEvent
  | [] => (.ok [], [])
  | .fault reason :: rest => (.error reason, rest)
  | .data bytes :: rest =>
    if bytes.length ≤ readSize then (.ok bytes, rest)
    else (.ok (bytes.take readSize), .data (bytes.drop readSize) :: rest)

theorem weight_next_of_error {events rest : List ReadEvent} {reason : Fault}
    (h : next events = (.error reason, rest)) : weight rest < weight events := by
  cases events with
  | nil => simp [next] at h
  | cons event tail =>
    cases event with
    | fault other =>
      simp only [next, Prod.mk.injEq] at h
      obtain ⟨-, rfl⟩ := h
      simp only [weight]
      omega
    | data bytes =>
      simp only [next] at h
      split at h <;> simp at h

theorem weight_next_of_data {events rest : List ReadEvent} {byte : UInt8} {bytes : List UInt8}
    (h : next events = (.ok (byte :: bytes), rest)) : weight rest < weight events := by
  cases events with
  | nil => simp [next] at h
  | cons event tail =>
    cases event with
    | fault other => simp [next] at h
    | data piece =>
      simp only [next] at h
      split at h
      · simp only [Prod.mk.injEq] at h
        obtain ⟨-, rfl⟩ := h
        simp only [weight]
        omega
      · rename_i hLong
        simp only [Prod.mk.injEq] at h
        obtain ⟨-, rfl⟩ := h
        simp only [weight, List.length_drop, readSize] at hLong ⊢
        omega

end ReadEvent

structure Reader where
  decoder : Decoder
  pending : List Frame
  script : List ReadEvent
deriving Inhabited

namespace Reader

def new (maxPayload : Nat) (script : List ReadEvent) : Reader :=
  ⟨.new maxPayload, [], script⟩

def next (reader : Reader) : Except FrameError Frame × Reader :=
  match reader.pending with
  | frame :: rest => (.ok frame, { reader with pending := rest })
  | [] =>
    match _h : ReadEvent.next reader.script with
    | (.error fault, script) =>
      if fault.isInterrupted then next { reader with pending := [], script }
      else (.error (.stream fault), { reader with pending := [], script })
    | (.ok [], script) => (.error .closed, { reader with pending := [], script })
    | (.ok (byte :: bytes), script) =>
      let (decoder, frames) := reader.decoder.feed (byte :: bytes)
      next ⟨decoder, frames, script⟩
termination_by (ReadEvent.weight reader.script, reader.pending.length)
decreasing_by
  · exact Prod.Lex.left _ _ (ReadEvent.weight_next_of_error _h)
  · exact Prod.Lex.left _ _ (ReadEvent.weight_next_of_data _h)

theorem measure_next_lt {reader after : Reader} {frame : Frame}
    (h : reader.next = (.ok frame, after)) :
    Prod.Lex (· < ·) (· < ·) (ReadEvent.weight after.script, after.pending.length)
      (ReadEvent.weight reader.script, reader.pending.length) := by
  fun_induction next reader with
  | case1 reader frame rest hPending =>
    simp only [Prod.mk.injEq] at h
    obtain ⟨-, rfl⟩ := h
    exact Prod.Lex.right _ (by simp [hPending])
  | case2 reader hPending fault script hNext hInterrupted ih =>
    have hLess := ReadEvent.weight_next_of_error hNext
    rcases Prod.lex_def.1 (ih h) with hFirst | ⟨hFirst, -⟩
    · exact Prod.Lex.left _ _ (Nat.lt_trans hFirst hLess)
    · exact Prod.Lex.left _ _ (Nat.lt_of_le_of_lt (Nat.le_of_eq hFirst) hLess)
  | case3 => simp at h
  | case4 => simp at h
  | case5 reader hPending byte bytes script hNext decoder frames hFeed ih =>
    have hLess := ReadEvent.weight_next_of_data hNext
    rcases Prod.lex_def.1 (ih h) with hFirst | ⟨hFirst, -⟩
    · exact Prod.Lex.left _ _ (Nat.lt_trans hFirst hLess)
    · exact Prod.Lex.left _ _ (Nat.lt_of_le_of_lt (Nat.le_of_eq hFirst) hLess)

def nextValid (reader : Reader) : Except FrameError Frame × Reader :=
  match _h : reader.next with
  | (.error error, after) => (.error error, after)
  | (.ok frame, after) => if frame.valid then (.ok frame, after) else nextValid after
termination_by (ReadEvent.weight reader.script, reader.pending.length)
decreasing_by exact measure_next_lt _h

end Reader

end DeviceRig.Frame
