import DeviceRig.Frame.Reader
import DeviceRig.Proofs.Frame.Stream

/-!
# Frames from a stream that fails

The blocking reader runs in turns: it hands out a frame that is waiting, or
else it reads the stream once. Whatever the reads bring, the frames handed out
and those still waiting are the frames of all bytes read so far, and the
decoder is where these bytes have taken it. A call is a run of turns up to the
first one that answers it, so calls can go on after any failure.
-/
namespace DeviceRig.Frame

namespace ReadEvent

def received : Except Fault (List UInt8) → List UInt8
  | .ok bytes => bytes
  | .error _ => []

/-- The outcomes of some reads, one after the other, and the events left. -/
def serve (script : List ReadEvent) : Nat → List (Except Fault (List UInt8)) × List ReadEvent
  | 0 => ([], script)
  | count + 1 =>
    let (earlier, left) := serve script count
    let (result, left) := next left
    (earlier ++ [result], left)

end ReadEvent

namespace Reader

open ReadEvent (received serve)

abbrev Answer := Except FrameError Frame

inductive Turn where
  | handOut (frame : Frame)
  | read (result : Except Fault (List UInt8))

def failure? : Except Fault (List UInt8) → Option FrameError
  | .ok [] => some .closed
  | .ok (_ :: _) => none
  | .error fault => if fault.isInterrupted then none else some (.stream fault)

namespace Turn

def frame? : Turn → Option Frame
  | .handOut frame => some frame
  | .read _ => none

def result? : Turn → Option (Except Fault (List UInt8))
  | .handOut _ => none
  | .read result => some result

/-- What a call returns after this turn, unless it takes another one. -/
def answer? : Turn → Option Answer
  | .handOut frame => some (.ok frame)
  | .read result => (failure? result).map .error

end Turn

def handedOut (turns : List Turn) : List Frame :=
  turns.filterMap Turn.frame?

def results (turns : List Turn) : List (Except Fault (List UInt8)) :=
  turns.filterMap Turn.result?

def bytesRead (turns : List Turn) : List UInt8 :=
  (results turns).flatMap received

def answers (turns : List Turn) : List Answer :=
  turns.filterMap Turn.answer?

/-- One turn: a waiting frame is handed out, or the stream is read if none is waiting. -/
def turn (reader : Reader) : Turn × Reader :=
  match reader.pending with
  | frame :: rest => (.handOut frame, { reader with pending := rest })
  | [] =>
    let (result, script) := ReadEvent.next reader.script
    let (decoder, frames) := reader.decoder.feed (received result)
    (.read result, ⟨decoder, frames, script⟩)

/-- The first turns, in order, and the reader behind them. -/
def turns (reader : Reader) : Nat → List Turn × Reader
  | 0 => ([], reader)
  | count + 1 =>
    let (earlier, before) := turns reader count
    let (turn, after) := before.turn
    (earlier ++ [turn], after)

theorem turn_of_pending {reader : Reader} {frame : Frame} {rest : List Frame}
    (hPending : reader.pending = frame :: rest) :
    reader.turn = (.handOut frame, { reader with pending := rest }) := by
  rw [turn, hPending]

theorem turn_of_read {reader : Reader} {result : Except Fault (List UInt8)}
    {script : List ReadEvent} (hPending : reader.pending = [])
    (hNext : ReadEvent.next reader.script = (result, script)) :
    reader.turn =
      (.read result, ⟨(reader.decoder.feed (received result)).1,
        (reader.decoder.feed (received result)).2, script⟩) := by
  rw [turn, hPending, hNext]

theorem turns_succ (reader : Reader) (count : Nat) :
    reader.turns (count + 1) =
      ((reader.turns count).1 ++ [(reader.turns count).2.turn.1],
        (reader.turns count).2.turn.2) := rfl

theorem turns_add (reader : Reader) (first second : Nat) :
    reader.turns (first + second) =
      ((reader.turns first).1 ++ ((reader.turns first).2.turns second).1,
        ((reader.turns first).2.turns second).2) := by
  induction second with
  | zero => simp [turns]
  | succ second ih =>
    rw [← Nat.add_assoc, turns_succ, ih, turns_succ]
    simp

/-- Where the reader stands after some turns: what it has read is what the stream gave, and this
has come out of the decoder and is handed out but for what is waiting. -/
structure Delivers (maxPayload : Nat) (script : List ReadEvent) (past : List Turn)
    (now : Reader) : Prop where
  reads : (results past, now.script) = serve script (results past).length
  frames : handedOut past ++ now.pending = ((Decoder.new maxPayload).feed (bytesRead past)).2
  decoder : now.decoder = ((Decoder.new maxPayload).feed (bytesRead past)).1
  patience : ∀ result, now.turn.1 = .read result →
    handedOut past = ((Decoder.new maxPayload).feed (bytesRead past)).2

theorem Delivers.of_frames {maxPayload : Nat} {script : List ReadEvent} {past : List Turn}
    {now : Reader} (hReads : (results past, now.script) = serve script (results past).length)
    (hFrames : handedOut past ++ now.pending =
      ((Decoder.new maxPayload).feed (bytesRead past)).2)
    (hDecoder : now.decoder = ((Decoder.new maxPayload).feed (bytesRead past)).1) :
    Delivers maxPayload script past now where
  reads := hReads
  frames := hFrames
  decoder := hDecoder
  patience result hTurn := by
    cases hPending : now.pending with
    | nil => rwa [hPending, List.append_nil] at hFrames
    | cons frame rest =>
      rw [turn_of_pending hPending] at hTurn
      cases hTurn

theorem delivers_new (maxPayload : Nat) (script : List ReadEvent) :
    Delivers maxPayload script [] (new maxPayload script) :=
  .of_frames rfl rfl rfl

theorem Delivers.turn {maxPayload : Nat} {script : List ReadEvent} {past : List Turn}
    {now : Reader} (h : Delivers maxPayload script past now) :
    Delivers maxPayload script (past ++ [now.turn.1]) now.turn.2 := by
  obtain ⟨hReads, hFrames, hDecoder, -⟩ := h
  cases hPending : now.pending with
  | cons frame rest =>
    have hResults : results (past ++ [.handOut frame]) = results past := by
      simp [results, Turn.result?]
    have hHanded : handedOut (past ++ [.handOut frame]) = handedOut past ++ [frame] := by
      simp [handedOut, Turn.frame?]
    rw [turn_of_pending hPending]
    refine .of_frames ?_ ?_ ?_
    · rw [hResults]
      exact hReads
    · rw [bytesRead, hResults, hHanded, List.append_assoc, List.singleton_append, ← hPending]
      exact hFrames
    · rw [bytesRead, hResults]
      exact hDecoder
  | nil =>
    obtain ⟨result, left, hNext⟩ : ∃ result left, ReadEvent.next now.script = (result, left) :=
      ⟨_, _, rfl⟩
    have hResults : results (past ++ [.read result]) = results past ++ [result] := by
      simp [results, Turn.result?]
    have hHanded : handedOut (past ++ [.read result]) = handedOut past := by
      simp [handedOut, Turn.frame?]
    have hBytes : bytesRead (past ++ [.read result]) = bytesRead past ++ received result := by
      rw [bytesRead, hResults, List.flatMap_append, List.flatMap_singleton, bytesRead]
    rw [hPending, List.append_nil] at hFrames
    rw [turn_of_read hPending hNext]
    refine .of_frames ?_ ?_ ?_
    · rw [hResults, List.length_append, List.length_singleton, serve, ← hReads]
      dsimp only
      rw [hNext]
    · rw [hHanded, hBytes, Decoder.feed_append, ← hFrames, ← hDecoder]
    · rw [hBytes, Decoder.feed_append, ← hDecoder]

theorem delivers_turns (maxPayload : Nat) (script : List ReadEvent) (count : Nat) :
    Delivers maxPayload script ((new maxPayload script).turns count).1
      ((new maxPayload script).turns count).2 := by
  induction count with
  | zero => exact delivers_new maxPayload script
  | succ count ih => exact ih.turn

theorem answers_append (first second : List Turn) :
    answers (first ++ second) = answers first ++ answers second :=
  List.filterMap_append

/-- A run of turns gives some answers and leaves the reader like this. -/
def Answers (reader : Reader) (given : List Answer) (after : Reader) : Prop :=
  ∃ count, answers (reader.turns count).1 = given ∧ (reader.turns count).2 = after

theorem Answers.append {reader middle after : Reader} {first second : List Answer}
    (hFirst : Answers reader first middle) (hSecond : Answers middle second after) :
    Answers reader (first ++ second) after := by
  obtain ⟨count, rfl, rfl⟩ := hFirst
  obtain ⟨more, rfl, rfl⟩ := hSecond
  exact ⟨count + more, by rw [turns_add, answers_append], by rw [turns_add]⟩

theorem answers_turn (reader : Reader) :
    Answers reader reader.turn.1.answer?.toList reader.turn.2 := by
  refine ⟨1, ?_, rfl⟩
  rw [turns_succ, turns, List.nil_append, answers]
  cases h : reader.turn.1.answer? <;> simp [h]

theorem feed_nil (decoder : Decoder) : decoder.feed [] = (decoder, []) := rfl

theorem answers_next (reader : Reader) : Answers reader [reader.next.1] reader.next.2 := by
  have hTurn := answers_turn reader
  fun_induction next reader with
  | case1 reader frame rest hPending =>
    rw [turn_of_pending hPending] at hTurn
    exact hTurn
  | case2 reader hPending fault script hNext hInterrupted ih =>
    rw [turn_of_read hPending hNext] at hTurn
    simp only [Turn.answer?, failure?, hInterrupted] at hTurn
    exact hTurn.append (ih (answers_turn _))
  | case3 reader hPending fault script hNext hInterrupted =>
    rw [turn_of_read hPending hNext] at hTurn
    simpa [Turn.answer?, failure?, hInterrupted, received, feed_nil] using hTurn
  | case4 reader hPending script hNext =>
    rw [turn_of_read hPending hNext] at hTurn
    exact hTurn
  | case5 reader hPending byte bytes script hNext decoder frames hFeed ih =>
    rw [turn_of_read hPending hNext, received, hFeed] at hTurn
    exact hTurn.append (ih (answers_turn _))

inductive Call where
  | frame
  | valid

def perform (reader : Reader) : Call → Answer × Reader
  | .frame => reader.next
  | .valid => reader.nextValid

def performAll (reader : Reader) : List Call → List Answer × Reader
  | [] => ([], reader)
  | call :: rest =>
    let (answer, after) := reader.perform call
    let (more, last) := after.performAll rest
    (answer :: more, last)

/-- How the answers of calls come from those of the loop that they run: a call for a valid frame
skips frames that are not valid, and ends with the first other answer. -/
inductive Wraps : List Call → List Answer → List Answer → Prop where
  | done : Wraps [] [] []
  | frame {calls : List Call} {inner outer : List Answer} (answer : Answer)
      (hRest : Wraps calls inner outer) :
      Wraps (.frame :: calls) (answer :: inner) (answer :: outer)
  | skip {calls : List Call} {inner outer : List Answer} {frame : Frame}
      (hInvalid : frame.valid = false) (hRest : Wraps (.valid :: calls) inner outer) :
      Wraps (.valid :: calls) (.ok frame :: inner) outer
  | valid {calls : List Call} {inner outer : List Answer} {answer : Answer}
      (hAnswer : ∀ frame, answer = .ok frame → frame.valid = true)
      (hRest : Wraps calls inner outer) :
      Wraps (.valid :: calls) (answer :: inner) (answer :: outer)

theorem wraps_nextValid {reader : Reader} {calls : List Call}
    (hRest : ∃ inner, Wraps calls inner (reader.nextValid.2.performAll calls).1 ∧
      Answers reader.nextValid.2 inner (reader.nextValid.2.performAll calls).2) :
    ∃ inner, Wraps (.valid :: calls) inner
        (reader.nextValid.1 :: (reader.nextValid.2.performAll calls).1) ∧
      Answers reader inner (reader.nextValid.2.performAll calls).2 := by
  have hCall := answers_next reader
  fun_induction nextValid reader with
  | case1 reader error after hNext =>
    obtain ⟨inner, hWraps, hAnswers⟩ := hRest
    rw [hNext] at hCall
    exact ⟨_, .valid nofun hWraps, hCall.append hAnswers⟩
  | case2 reader frame after hNext hValid =>
    obtain ⟨inner, hWraps, hAnswers⟩ := hRest
    rw [hNext] at hCall
    refine ⟨_, .valid ?_ hWraps, hCall.append hAnswers⟩
    rintro other ⟨⟩
    exact hValid
  | case3 reader frame after hNext hInvalid ih =>
    obtain ⟨inner, hWraps, hAnswers⟩ := ih hRest (answers_next after)
    rw [hNext] at hCall
    exact ⟨_, .skip (Bool.eq_false_iff.mpr hInvalid) hWraps, hCall.append hAnswers⟩

theorem wraps_performAll (reader : Reader) (calls : List Call) :
    ∃ inner, Wraps calls inner (reader.performAll calls).1 ∧
      Answers reader inner (reader.performAll calls).2 := by
  induction calls generalizing reader with
  | nil => exact ⟨[], .done, 0, rfl, rfl⟩
  | cons call rest ih =>
    cases call with
    | frame =>
      obtain ⟨inner, hWraps, hAnswers⟩ := ih reader.next.2
      exact ⟨_, .frame _ hWraps, (answers_next reader).append hAnswers⟩
    | valid => exact wraps_nextValid (ih reader.nextValid.2)

def error? : Answer → Option FrameError
  | .ok _ => none
  | .error error => some error

def frame? : Answer → Option Frame
  | .ok frame => some frame
  | .error _ => none

theorem Wraps.errors {calls : List Call} {inner outer : List Answer} (h : Wraps calls inner outer) :
    outer.filterMap error? = inner.filterMap error? := by
  induction h with
  | done => rfl
  | frame answer hRest ih => simp only [List.filterMap_cons, ih]
  | skip hInvalid hRest ih => rwa [List.filterMap_cons_none rfl]
  | valid hAnswer hRest ih => simp only [List.filterMap_cons, ih]

theorem Wraps.frames {calls : List Call} {inner outer : List Answer} (h : Wraps calls inner outer)
    (hCalls : ∀ call ∈ calls, call = .frame) : outer = inner := by
  induction h with
  | done => rfl
  | frame answer hRest ih => rw [ih fun call hCall => hCalls call (List.mem_cons_of_mem _ hCall)]
  | skip hInvalid hRest ih => cases hCalls _ List.mem_cons_self
  | valid hAnswer hRest ih => cases hCalls _ List.mem_cons_self

theorem Wraps.validFrames {calls : List Call} {inner outer : List Answer}
    (h : Wraps calls inner outer) (hCalls : ∀ call ∈ calls, call = .valid) :
    outer.filterMap frame? = (inner.filterMap frame?).filter Frame.valid := by
  induction h with
  | done => rfl
  | frame answer hRest ih => cases hCalls _ List.mem_cons_self
  | skip hInvalid hRest ih =>
    rw [ih hCalls]
    simp [frame?, hInvalid]
  | @valid calls inner outer answer hAnswer hRest ih =>
    have hMore := ih fun call hCall => hCalls call (List.mem_cons_of_mem _ hCall)
    cases answer with
    | error error => rwa [List.filterMap_cons_none rfl, List.filterMap_cons_none rfl]
    | ok frame => simp [frame?, hMore, hAnswer frame rfl]

theorem handedOut_eq (turns : List Turn) : handedOut turns = (answers turns).filterMap frame? := by
  rw [answers, List.filterMap_filterMap, handedOut]
  congr 1
  funext turn
  cases turn with
  | handOut frame => rfl
  | read result => cases h : failure? result <;> simp [Turn.frame?, Turn.answer?, frame?, h]

theorem errors_answers (turns : List Turn) :
    (answers turns).filterMap error? = (results turns).filterMap failure? := by
  rw [answers, results, List.filterMap_filterMap, List.filterMap_filterMap]
  congr 1
  funext turn
  cases turn with
  | handOut frame => rfl
  | read result => cases h : failure? result <;> simp [Turn.result?, Turn.answer?, error?, h]

theorem isInterrupted_of_failure {result : Except Fault (List UInt8)} {fault : Fault}
    (h : failure? result = some (.stream fault)) : fault.isInterrupted = false := by
  cases result with
  | ok bytes => cases bytes <;> cases h
  | error reason =>
    rw [failure?] at h
    split at h
    · cases h
    · rename_i hReason
      cases h
      exact Bool.eq_false_iff.mpr hReason

/-- Reading from a stream that fails: at every moment the frames handed out and those waiting are
those of all bytes read so far, and the stream is read only while none is waiting. Some calls
return the frames that their turns hand out, or the valid ones among them, and fail once for every
end of the stream and for every failure that is no interruption, in order. -/
theorem performAll_delivers_once (maxPayload : Nat) (script : List ReadEvent) (calls : List Call) :
    (∀ count, Delivers maxPayload script ((new maxPayload script).turns count).1
      ((new maxPayload script).turns count).2) ∧
    ∃ count inner,
      let (turns, after) := (new maxPayload script).turns count
      let (outer, last) := (new maxPayload script).performAll calls
      after = last ∧ answers turns = inner ∧ Wraps calls inner outer ∧
        outer.filterMap error? = (results turns).filterMap failure? ∧
        (∀ fault, .error (.stream fault) ∈ outer → fault.isInterrupted = false) ∧
        ((∀ call ∈ calls, call = .frame) → outer.filterMap frame? = handedOut turns) ∧
        ((∀ call ∈ calls, call = .valid) →
          outer.filterMap frame? = (handedOut turns).filter Frame.valid) := by
  refine ⟨delivers_turns maxPayload script, ?_⟩
  obtain ⟨inner, hWraps, count, hInner, hAfter⟩ := wraps_performAll (new maxPayload script) calls
  have hErrors : ((new maxPayload script).performAll calls).1.filterMap error? =
      (results ((new maxPayload script).turns count).1).filterMap failure? := by
    rw [hWraps.errors, ← hInner, errors_answers]
  refine ⟨count, inner, hAfter, hInner, hWraps, hErrors, fun fault hFault => ?_,
    fun hCalls => ?_, fun hCalls => ?_⟩
  · have hReturned : FrameError.stream fault ∈
        ((new maxPayload script).performAll calls).1.filterMap error? :=
      List.mem_filterMap.mpr ⟨_, hFault, rfl⟩
    rw [hErrors] at hReturned
    obtain ⟨result, -, hResult⟩ := List.mem_filterMap.mp hReturned
    exact isInterrupted_of_failure hResult
  · rw [hWraps.frames hCalls, handedOut_eq, hInner]
  · rw [hWraps.validFrames hCalls, handedOut_eq, hInner]

end Reader

namespace ReadEvent

/-- Whether the reads of a stream bring some bytes, in pieces of any size, before its end. Reads may
be interrupted. -/
inductive Brings : List ReadEvent → List UInt8 → Prop where
  | nothing : Brings [] []
  | ended (later : List ReadEvent) : Brings (.data [] :: later) []
  | data {piece bytes : List UInt8} {rest : List ReadEvent} (hPiece : piece ≠ [])
      (hRest : Brings rest bytes) : Brings (.data piece :: rest) (piece ++ bytes)
  | interrupted {fault : Fault} {bytes : List UInt8} {rest : List ReadEvent}
      (hFault : fault.isInterrupted = true) (hRest : Brings rest bytes) :
      Brings (.fault fault :: rest) bytes

theorem Brings.next_fault {script rest : List ReadEvent} {bytes : List UInt8} {fault : Fault}
    (h : Brings script bytes) (hNext : next script = (.error fault, rest)) :
    fault.isInterrupted = true ∧ Brings rest bytes := by
  cases h with
  | nothing => cases hNext
  | ended later => cases hNext
  | data hPiece hRest =>
    rw [next] at hNext
    split at hNext
    · cases hNext
    · cases hNext
  | interrupted hFault hRest =>
    cases hNext
    exact ⟨hFault, hRest⟩

theorem Brings.next_data {script rest : List ReadEvent} {bytes piece : List UInt8}
    (h : Brings script bytes) (hNext : next script = (.ok piece, rest)) :
    (piece = [] ∧ bytes = []) ∨ piece ≠ [] ∧ ∃ left, bytes = piece ++ left ∧ Brings rest left := by
  cases h with
  | nothing =>
    cases hNext
    exact .inl ⟨rfl, rfl⟩
  | ended later =>
    cases hNext
    exact .inl ⟨rfl, rfl⟩
  | @data whole bytes behind hPiece hRest =>
    rw [next] at hNext
    split at hNext
    · cases hNext
      exact .inr ⟨hPiece, bytes, rfl, hRest⟩
    · rename_i hLong
      cases hNext
      have hTake : whole.take readSize ≠ [] := by
        rw [← List.length_pos_iff, List.length_take, readSize]
        rw [readSize] at hLong
        omega
      have hDrop : whole.drop readSize ≠ [] := by
        rw [← List.length_pos_iff, List.length_drop]
        omega
      refine .inr ⟨hTake, whole.drop readSize ++ bytes, ?_, .data hDrop hRest⟩
      rw [← List.append_assoc, List.take_append_drop]
  | interrupted hFault hRest => cases hNext

end ReadEvent

namespace Reader

/-- The frames that calls return one after the other until the stream is at its end. -/
inductive Yields : Reader → List Frame → Prop where
  | closed {reader after : Reader} (hNext : reader.next = (.error .closed, after)) :
      Yields reader []
  | frame {reader after : Reader} {frame : Frame} {rest : List Frame}
      (hNext : reader.next = (.ok frame, after)) (hRest : Yields after rest) :
      Yields reader (frame :: rest)

/-- What a call returns of a stream that brings some bytes: the first frame that is waiting or
comes, and the others are left. -/
theorem next_of_brings {reader : Reader} {bytes : List UInt8}
    (h : ReadEvent.Brings reader.script bytes) :
    (reader.pending ++ (reader.decoder.feed bytes).2 = [] ∧
        ∃ after, reader.next = (.error .closed, after)) ∨
      ∃ frame after left, reader.next = (.ok frame, after) ∧ ReadEvent.Brings after.script left ∧
        reader.pending ++ (reader.decoder.feed bytes).2 =
          frame :: (after.pending ++ (after.decoder.feed left).2) := by
  fun_induction next reader generalizing bytes with
  | case1 reader frame rest hPending => exact .inr ⟨frame, _, bytes, rfl, h, by rw [hPending]; rfl⟩
  | case2 reader hPending fault script hNext hInterrupted ih =>
    have hCalls := ih (h.next_fault hNext).2
    rwa [hPending]
  | case3 reader hPending fault script hNext hInterrupted =>
    exact absurd (h.next_fault hNext).1 hInterrupted
  | case4 reader hPending script hNext =>
    obtain ⟨-, rfl⟩ | ⟨hPiece, -⟩ := h.next_data hNext
    · exact .inl ⟨by rw [hPending]; rfl, _, rfl⟩
    · exact absurd rfl hPiece
  | case5 reader hPending byte more script hNext decoder frames hFeed ih =>
    obtain ⟨hPiece, -⟩ | ⟨-, left, rfl, hLeft⟩ := h.next_data hNext
    · cases hPiece
    · have hCalls := ih hLeft
      rw [hPending, List.nil_append, Decoder.feed_append, hFeed]
      exact hCalls

theorem yields_of_brings {reader : Reader} {bytes : List UInt8}
    (h : ReadEvent.Brings reader.script bytes) :
    Yields reader (reader.pending ++ (reader.decoder.feed bytes).2) := by
  generalize hFrames : reader.pending ++ (reader.decoder.feed bytes).2 = frames
  induction frames generalizing reader bytes with
  | nil =>
    obtain ⟨-, after, hNext⟩ | ⟨frame, after, left, -, -, hSome⟩ := next_of_brings h
    · exact .closed hNext
    · rw [hFrames] at hSome
      cases hSome
  | cons frame rest ih =>
    obtain ⟨hNone, -⟩ | ⟨first, after, left, hNext, hLeft, hSome⟩ := next_of_brings h
    · rw [hFrames] at hNone
      cases hNone
    · rw [hFrames] at hSome
      cases hSome
      exact .frame hNext (ih hLeft rfl)

theorem yields_new {script : List ReadEvent} {bytes : List UInt8}
    (h : ReadEvent.Brings script bytes) (maxPayload : Nat) :
    Yields (new maxPayload script) (ofWire maxPayload bytes) := by
  have hBrings : ReadEvent.Brings (new maxPayload script).script bytes := h
  have hYields := yields_of_brings hBrings
  rw [← Decoder.feed_new]
  exact hYields

end Reader

end DeviceRig.Frame
