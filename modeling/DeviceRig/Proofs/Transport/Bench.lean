import DeviceRig.Proofs.Transport.Dispatching
import DeviceRig.Proofs.Transport.Worker
import DeviceRig.Transport.Bench

/-!
# The loop of a worker on its bench

Whatever the peer does and whenever the worker is stopped, a worker on a bench
takes turns of the loop on what it has read, and its handlers note the calls
that the loop makes.
-/
namespace DeviceRig

namespace NotingHandler

/-- What a handler notes of a call: nothing of a frame at which it fails or panics. -/
def notesOf (handler : NotingHandler) : HandlerCall → List Note
  | .frame frame =>
    if handler.isTriggered frame && (handler.reaction = .fail || handler.reaction = .panic) then []
    else [.frame frame]
  | .close => [.closed]

theorem answer_eq (handler : NotingHandler) (call : HandlerCall) :
    (behaviour.answer handler call).2 =
      { handler with notes := handler.notes ++ handler.notesOf call } := by
  cases call with
  | frame frame =>
    simp only [HandlerBehaviour.answer, behaviour, notesOf]
    generalize handler.isTriggered frame = triggered
    obtain ⟨name, reaction, trigger, notes⟩ := handler
    cases triggered with
    | false => simp [note]
    | true => cases reaction <;> simp [note]
  | close => rfl

theorem after_eq (handler : NotingHandler) (calls : List HandlerCall) :
    behaviour.after calls handler =
      { handler with notes := handler.notes ++ calls.flatMap handler.notesOf } := by
  induction calls generalizing handler with
  | nil => simp [HandlerBehaviour.after]
  | cons call rest ih =>
    have hRest := ih (behaviour.answer handler call).2
    rw [answer_eq] at hRest
    refine (congrArg (behaviour.after rest) (handler.answer_eq call)).trans (hRest.trans ?_)
    have hNotes : NotingHandler.notesOf
        { handler with notes := handler.notes ++ handler.notesOf call } = handler.notesOf := by
      funext other
      cases other <;> rfl
    simp [hNotes]

def withEarlier (earlier : List Note) (handler : NotingHandler) : NotingHandler :=
  { handler with notes := earlier ++ handler.notes }

theorem after_withEarlier (earlier : List Note) (handler : NotingHandler)
    (calls : List HandlerCall) :
    behaviour.after calls (handler.withEarlier earlier) =
      (behaviour.after calls handler).withEarlier earlier := by
  have hNotes : (handler.withEarlier earlier).notesOf = handler.notesOf := by
    funext call
    cases call <;> rfl
  rw [after_eq, after_eq, hNotes]
  simp [withEarlier]

end NotingHandler

namespace WorkerBench

def noted (bench : WorkerBench) : Handlers NotingHandler :=
  bench.handlers.map fun entry =>
    (entry.1, entry.2.withEarlier ((bench.journal.lookup entry.2.name).getD []))

/-- Whether every handler has a name of its own, under which its notes are kept. -/
structure Named (bench : WorkerBench) : Prop where
  distinct : (bench.handlers.map fun entry => entry.2.name).Nodup
  entered : ∀ entry ∈ bench.handlers, (bench.journal.lookup entry.2.name).isSome = true

theorem Named.congr {bench next : WorkerBench} (h : bench.Named)
    (hHandlers : next.handlers = bench.handlers) (hJournal : next.journal = bench.journal) :
    next.Named ∧ next.noted = bench.noted := by
  refine ⟨⟨?_, ?_⟩, ?_⟩
  · rw [hHandlers]
    exact h.distinct
  · rw [hHandlers, hJournal]
    exact h.entered
  · rw [noted, noted, hHandlers, hJournal]

theorem lookup_enter (journal : List (String × List Note)) (name other : String)
    (notes : List Note) :
    (enter journal name notes).lookup other =
      (journal.lookup other).map fun old => if other = name then old ++ notes else old := by
  unfold enter
  induction journal with
  | nil => rfl
  | cons entry rest ih =>
    obtain ⟨first, old⟩ := entry
    rw [List.map_cons]
    by_cases hFirst : other = first
    · subst hFirst
      by_cases hName : other = name
      · subst hName
        simp
      · simp [hName]
    · have hBeq : (other == first) = false := beq_false_of_ne hFirst
      by_cases hName : first = name
      · subst hName
        simpa [List.lookup_cons, hBeq] using ih
      · simpa [List.lookup_cons, hBeq, hName] using ih

theorem lookup_collect (bench : WorkerBench) (name : String) :
    bench.collect.journal.lookup name = (bench.journal.lookup name).map fun old =>
      old ++ (bench.handlers.filter fun entry => entry.2.name = name).flatMap
        fun entry => entry.2.notes := by
  unfold collect
  dsimp only
  generalize bench.journal = journal
  induction bench.handlers generalizing journal with
  | nil => simp
  | cons entry rest ih =>
    rw [List.foldl_cons, ih, lookup_enter, Option.map_map]
    by_cases hName : entry.2.name = name
    · simp [hName, Function.comp_def]
    · simp [hName, Ne.symm hName, Function.comp_def]

theorem filter_name {handlers : Handlers NotingHandler} {entry : UInt8 × NotingHandler}
    (hDistinct : (handlers.map fun entry => entry.2.name).Nodup) (hEntry : entry ∈ handlers) :
    (handlers.filter fun other => other.2.name = entry.2.name) = [entry] := by
  induction handlers with
  | nil => cases hEntry
  | cons first rest ih =>
    rw [List.map_cons, List.nodup_cons] at hDistinct
    rcases List.mem_cons.mp hEntry with rfl | hRest
    · have hOthers : (rest.filter fun other => other.2.name = entry.2.name) = [] := by
        rw [List.filter_eq_nil_iff]
        intro other hOther hName
        refine hDistinct.1 (List.mem_map.mpr ⟨other, hOther, of_decide_eq_true hName⟩)
      rw [List.filter_cons_of_pos (by simp), hOthers]
    · have hFirst : first.2.name ≠ entry.2.name := by
        intro hName
        exact hDistinct.1 (List.mem_map.mpr ⟨entry, hRest, hName.symm⟩)
      rw [List.filter_cons_of_neg (by simpa using hFirst), ih hDistinct.2 hRest]

theorem Named.collect {bench : WorkerBench} (h : bench.Named) :
    bench.collect.Named ∧ bench.collect.noted = bench.noted := by
  have hHandlers : bench.collect.handlers =
      bench.handlers.map fun entry => (entry.1, { entry.2 with notes := [] }) := rfl
  constructor
  · constructor
    · rw [hHandlers, List.map_map]
      exact h.distinct
    · rw [hHandlers]
      intro entry hEntry
      obtain ⟨original, hOriginal, rfl⟩ := List.mem_map.mp hEntry
      rw [lookup_collect, Option.isSome_map]
      exact h.entered original hOriginal
  · rw [noted, hHandlers, List.map_map, noted]
    refine List.map_congr_left fun entry hEntry => ?_
    have hOwn := filter_name h.distinct hEntry
    obtain ⟨earlier, hEarlier⟩ := Option.isSome_iff_exists.mp (h.entered entry hEntry)
    simp [lookup_collect, hOwn, hEarlier, NotingHandler.withEarlier]

theorem Named.hear {bench next : WorkerBench} (h : bench.Named)
    (calls : UInt8 → List HandlerCall)
    (hHandlers : next.handlers = bench.handlers.hear NotingHandler.behaviour calls)
    (hJournal : next.journal = bench.journal) :
    next.collect.Named ∧
      next.collect.noted = bench.noted.hear NotingHandler.behaviour calls := by
  have hNext : next.Named := by
    constructor
    · have hNames : (bench.handlers.hear NotingHandler.behaviour calls).map
          (fun entry => entry.2.name) = bench.handlers.map fun entry => entry.2.name := by
        rw [Handlers.hear, List.map_map]
        refine List.map_congr_left fun entry _ => ?_
        rw [Function.comp_apply, NotingHandler.after_eq]
      rw [hHandlers, hNames]
      exact h.distinct
    · rw [hHandlers, hJournal]
      intro entry hEntry
      obtain ⟨original, hOriginal, rfl⟩ := List.mem_map.mp hEntry
      rw [NotingHandler.after_eq]
      exact h.entered original hOriginal
  refine ⟨hNext.collect.1, hNext.collect.2.trans ?_⟩
  rw [noted, hHandlers, hJournal, noted, Handlers.hear, Handlers.hear, List.map_map, List.map_map]
  refine List.map_congr_left fun entry _ => ?_
  rw [Function.comp_apply, Function.comp_apply, NotingHandler.after_withEarlier,
    NotingHandler.after_eq]

theorem Named.dispatch {bench : WorkerBench} (h : bench.Named) (frames : List Frame) :
    (frames.foldl WorkerBench.dispatch bench).Named ∧
      (frames.foldl WorkerBench.dispatch bench).noted =
        bench.noted.dispatchAll NotingHandler.behaviour frames := by
  induction frames generalizing bench with
  | nil => exact ⟨h, rfl⟩
  | cons frame rest ih =>
    obtain ⟨hNamed, hNoted⟩ : (bench.dispatch frame).Named ∧ (bench.dispatch frame).noted =
        bench.noted.hear NotingHandler.behaviour (framesOf [frame]) :=
      h.hear _ (Handlers.dispatch_eq _ _ frame) rfl
    obtain ⟨hRest, hRestNoted⟩ := ih hNamed
    refine ⟨hRest, hRestNoted.trans ?_⟩
    rw [hNoted, ← Handlers.dispatch_eq]
    rfl

theorem Named.leave {bench : WorkerBench} (h : bench.Named) :
    bench.leave.Named ∧ bench.leave.noted = bench.noted.close NotingHandler.behaviour := by
  have hClose : ({ bench with
      handlers := bench.handlers.close NotingHandler.behaviour
      worker := bench.worker.threadEnds false
      inbox := [] } : WorkerBench).handlers =
        bench.handlers.hear NotingHandler.behaviour fun _ => [.close] := rfl
  exact h.hear _ hClose rfl

theorem foldl_dispatch_keeps (bench : WorkerBench) (frames : List Frame) :
    (frames.foldl dispatch bench).decoder = bench.decoder ∧
      (frames.foldl dispatch bench).inbox = bench.inbox ∧
      (frames.foldl dispatch bench).worker = bench.worker := by
  induction frames generalizing bench with
  | nil => exact ⟨rfl, rfl, rfl⟩
  | cons frame rest ih => exact ih (bench.dispatch frame)

/-- What the handlers will have noted if the loop meets these turns from here on. -/
def outcome (bench : WorkerBench) (turns : List LoopTurn) : Handlers NotingHandler :=
  if bench.worker.isAlive then
    runLoop NotingHandler.behaviour bench.decoder bench.noted turns
  else bench.noted

/-- Whether a bench comes from another by turns of the loop on bytes of its inbox. -/
def Follows (bench next : WorkerBench) : Prop :=
  ∃ turns unread, (∀ more, bench.outcome (turns ++ more) = next.outcome more) ∧
    bench.inbox = turns.flatMap LoopTurn.bytes ++ unread ∧
    (next.worker.isAlive = true → next.inbox = unread)

theorem Follows.refl (bench : WorkerBench) : bench.Follows bench :=
  ⟨[], bench.inbox, fun _ => rfl, rfl, fun _ => rfl⟩

theorem Named.leave_follows {bench next : WorkerBench} (h : bench.Named)
    (hAlive : bench.worker.isAlive = true) (hNoted : next.noted = bench.leave.noted)
    (hGone : next.worker.isAlive = false) : bench.Follows next := by
  refine ⟨[.stopRequested], bench.inbox, fun more => ?_, rfl, fun hNext => ?_⟩
  · rw [outcome, if_pos hAlive, outcome, hGone, hNoted, h.leave.2]
    rfl
  · rw [hGone] at hNext
    cases hNext

theorem Named.readChunk_follows {bench : WorkerBench} (h : bench.Named)
    (hAlive : bench.worker.isAlive = true) (hInbox : bench.inbox ≠ []) :
    bench.readChunk.Named ∧ bench.readChunk.worker = bench.worker ∧
      bench.Follows bench.readChunk := by
  let size := max bench.settings.chunkSize 1
  let fed := bench.decoder.feed (bench.inbox.take size)
  let read : WorkerBench := { bench with decoder := fed.1, inbox := bench.inbox.drop size }
  have hRead : bench.readChunk = fed.2.foldl WorkerBench.dispatch read := rfl
  obtain ⟨hDecoder, hLeft, hWorker⟩ := foldl_dispatch_keeps read fed.2
  have hSame : read.Named := ⟨h.distinct, h.entered⟩
  obtain ⟨hNamed, hNoted⟩ := hSame.dispatch fed.2
  rw [← hRead] at hDecoder hLeft hWorker hNamed hNoted
  -- Even a buffer of no size takes a byte, so the piece is not taken for the end of the stream.
  have hGoesOn : (LoopTurn.data (bench.inbox.take size)).goesOn = true := by
    have hSize : size ≠ 0 := Nat.ne_of_gt (Nat.le_max_right _ 1)
    simp [LoopTurn.goesOn, hSize, hInbox]
  refine ⟨hNamed, hWorker, [.data (bench.inbox.take size)], bench.inbox.drop size, ?_, ?_, ?_⟩
  · intro more
    rw [outcome, if_pos hAlive, outcome, hWorker, if_pos hAlive, hDecoder, hNoted,
      List.singleton_append, runLoop, if_pos hGoesOn]
    rfl
  · rw [List.flatMap_singleton]
    exact (List.take_append_drop size bench.inbox).symm
  · exact fun _ => hLeft

theorem Follows.trans {first second third : WorkerBench} (h : first.Follows second)
    (hAlive : second.worker.isAlive = true) (hNext : second.Follows third) :
    first.Follows third := by
  obtain ⟨turns, unread, hTurns, hInbox, hUnread⟩ := h
  obtain ⟨more, left, hMore, hMoreInbox, hLeft⟩ := hNext
  refine ⟨turns ++ more, left, fun rest => ?_, ?_, hLeft⟩
  · rw [List.append_assoc, hTurns, hMore]
  · rw [hInbox, ← hUnread hAlive, hMoreInbox, List.flatMap_append, List.append_assoc]

theorem Named.workUntil {bench : WorkerBench} (h : bench.Named) (time turns : Nat) :
    (bench.workUntil time turns).Named ∧ bench.Follows (bench.workUntil time turns) := by
  induction turns generalizing bench with
  | zero => exact ⟨h, .refl bench⟩
  | succ turns ih =>
    have hGone : bench.leave.worker.isAlive = false := bench.worker.isAlive_threadEnds false
    unfold WorkerBench.workUntil
    split
    · rename_i hWorks
      have hAlive : bench.worker.isAlive = true := (Bool.and_eq_true_iff.mp hWorks).1
      split
      · exact ⟨h.leave.1, h.leave_follows hAlive rfl hGone⟩
      · split
        · rename_i hInbox
          obtain ⟨hNamed, hWorker, hRead⟩ := h.readChunk_follows hAlive (by simpa using hInbox)
          obtain ⟨hLater, hFollows⟩ := ih hNamed
          exact ⟨hLater, hRead.trans (hWorker ▸ hAlive) hFollows⟩
        · split
          · exact ⟨h.leave.1, h.leave_follows hAlive rfl hGone⟩
          · exact ⟨h, .refl bench⟩
    · exact ⟨h, .refl bench⟩

/-- What is done at a bench from a moment on, with all bytes that the peer has written since. -/
inductive Runs (first : WorkerBench) : List UInt8 → WorkerBench → Prop where
  | refl : Runs first [] first
  | write {written bytes : List UInt8} {bench next : WorkerBench} (h : Runs first written bench)
      (hWrite : bench.write bytes = some next) : Runs first (written ++ bytes) next
  | pause {written : List UInt8} {bench : WorkerBench} (h : Runs first written bench)
      (time : Duration) : Runs first written (bench.pause time)
  | hangUp {written : List UInt8} {bench : WorkerBench} (h : Runs first written bench) :
      Runs first written bench.hangUp
  | stop {written : List UInt8} {bench : WorkerBench} (h : Runs first written bench) :
      Runs first written bench.stop.2

/-- Whether a bench comes from its start by turns of the loop on bytes that were written. -/
structure Tracks (first : WorkerBench) (written : List UInt8) (bench : WorkerBench) : Prop where
  named : bench.Named
  turns : ∃ turns unread, (∀ more, first.outcome (turns ++ more) = bench.outcome more) ∧
    first.inbox ++ written = turns.flatMap LoopTurn.bytes ++ unread ∧
    (bench.worker.isAlive = true → bench.inbox = unread)

theorem Tracks.follow {first bench ready next : WorkerBench} {written bytes : List UInt8}
    (h : first.Tracks written bench) (hAlive : bench.worker.isAlive = true)
    (hSame : ∀ more, ready.outcome more = bench.outcome more)
    (hBytes : ready.inbox = bench.inbox ++ bytes) (hNamed : next.Named)
    (hFollows : ready.Follows next) : first.Tracks (written ++ bytes) next := by
  obtain ⟨turns, unread, hTurns, hInbox, hUnread⟩ := h.turns
  obtain ⟨more, left, hMore, hMoreInbox, hLeft⟩ := hFollows
  refine ⟨hNamed, turns ++ more, left, fun rest => ?_, ?_, hLeft⟩
  · rw [List.append_assoc, hTurns, ← hSame, hMore]
  · rw [← List.append_assoc, hInbox, ← hUnread hAlive, List.append_assoc, ← hBytes, hMoreInbox,
      List.flatMap_append, List.append_assoc]

theorem Tracks.rest {first bench next : WorkerBench} {written : List UInt8}
    (h : first.Tracks written bench) (hGone : bench.worker.isAlive = false)
    (hHandlers : next.handlers = bench.handlers) (hJournal : next.journal = bench.journal)
    (hNext : next.worker.isAlive = false) : first.Tracks written next := by
  obtain ⟨turns, unread, hTurns, hInbox, -⟩ := h.turns
  obtain ⟨hNamed, hNoted⟩ := h.named.congr hHandlers hJournal
  refine ⟨hNamed, turns, unread, fun more => ?_, hInbox, fun hAlive => ?_⟩
  · rw [hTurns, outcome, outcome, hGone, hNext, hNoted]
    rfl
  · rw [hNext] at hAlive
    cases hAlive

theorem workUntil_gone {bench : WorkerBench} (hGone : bench.worker.isAlive = false)
    (time turns : Nat) : bench.workUntil time turns = bench := by
  cases turns with
  | zero => rfl
  | succ turns => rw [WorkerBench.workUntil, hGone, Bool.false_and, if_neg Bool.false_ne_true]

theorem Tracks.pass {first bench : WorkerBench} {written bytes : List UInt8}
    (h : first.Tracks written bench) (ready : WorkerBench)
    (hHandlers : ready.handlers = bench.handlers) (hJournal : ready.journal = bench.journal)
    (hDecoder : ready.decoder = bench.decoder) (hWorker : ready.worker = bench.worker)
    (hBytes : ready.inbox = bench.inbox ++ bytes)
    (hWritten : bench.worker.isAlive = false → bytes = []) (time turns now : Nat) :
    first.Tracks (written ++ bytes) { ready.workUntil time turns with now } := by
  cases hAlive : bench.worker.isAlive with
  | true =>
    obtain ⟨hReady, hNoted⟩ := h.named.congr hHandlers hJournal
    have hSame : ∀ more, ready.outcome more = bench.outcome more := by
      intro more
      rw [outcome, outcome, hNoted, hDecoder, hWorker]
    obtain ⟨hNamed, hFollows⟩ := hReady.workUntil time turns
    exact h.follow hAlive hSame hBytes ⟨hNamed.distinct, hNamed.entered⟩ hFollows
  | false =>
    rw [hWritten hAlive, List.append_nil, workUntil_gone (hWorker ▸ hAlive)]
    exact h.rest hAlive hHandlers hJournal (hWorker ▸ hAlive)

theorem Tracks.stop {first bench : WorkerBench} {written : List UInt8}
    (h : first.Tracks written bench) : first.Tracks written bench.stop.2 := by
  unfold WorkerBench.stop
  dsimp only
  generalize (if bench.turnAt ≤ bench.now then bench.nextLook else bench.turnAt) = turnAt
  generalize bench.now + bench.settings.joinTimeout.nanoseconds = deadline
  cases hAlive : bench.worker.isAlive with
  | true =>
    obtain ⟨hFinishes, hOutlives⟩ := bench.worker.stop_of_alive hAlive
    have hKeep : ∀ next : WorkerBench, next.Named → bench.Follows next →
        first.Tracks written next := by
      intro next hNamed hFollows
      rw [← List.append_nil written]
      exact h.follow hAlive (fun _ => rfl) (List.append_nil _).symm hNamed hFollows
    by_cases hTime : turnAt ≤ deadline
    · rw [if_pos hTime, hFinishes]
      refine hKeep _ ?_ (h.named.leave_follows hAlive ?_ ?_)
      · exact ⟨h.named.leave.1.distinct, h.named.leave.1.entered⟩
      · rfl
      · rfl
    · -- The thread has not looked at its flag yet and is where it was.
      rw [if_neg hTime, hOutlives]
      refine hKeep _ ?_ ⟨[], bench.inbox, fun more => ?_, rfl, fun _ => rfl⟩
      · exact ⟨h.named.distinct, h.named.entered⟩
      · rw [outcome, if_pos hAlive]
        rfl
  | false =>
    have hStopped := bench.worker.isAlive_stop hAlive
      (if turnAt ≤ deadline then .finishes else .outlives)
    generalize bench.worker.stop _ = stopped at hStopped
    obtain ⟨answer, worker⟩ := stopped
    cases answer with
    | ok ended => exact h.rest hAlive rfl rfl hStopped
    | error error => exact h.rest hAlive rfl rfl hStopped

theorem Runs.tracks {first bench : WorkerBench} {written : List UInt8} (hFirst : first.Named)
    (h : Runs first written bench) : first.Tracks written bench := by
  induction h with
  | refl => exact ⟨hFirst, [], first.inbox, fun _ => rfl, by simp, fun _ => rfl⟩
  | @write written bytes bench next h hWrite ih =>
    unfold WorkerBench.write at hWrite
    split at hWrite
    · rename_i hOpen
      cases hWrite
      let turnAt := if bench.inbox.isEmpty then max bench.turnAt bench.now else bench.turnAt
      refine ih.pass { bench with inbox := bench.inbox ++ bytes, turnAt } rfl rfl rfl rfl rfl
        (fun hGone => ?_) _ _ _
      rw [hGone, Bool.and_false] at hOpen
      cases hOpen
    · cases hWrite
  | @pause written bench h time ih =>
    have hPass := ih.pass bench rfl rfl rfl rfl (List.append_nil _).symm (fun _ => rfl)
    rw [List.append_nil] at hPass
    exact hPass _ _ _
  | @hangUp written bench h ih =>
    let peer := if bench.peer = .connected then .gone else bench.peer
    have hPass := ih.pass { bench with peer, turnAt := max bench.turnAt bench.now } rfl rfl rfl rfl
      (List.append_nil _).symm (fun _ => rfl)
    rw [List.append_nil] at hPass
    exact hPass _ _ _
  | stop h ih => exact ih.stop

theorem start_eq {bench begun : WorkerBench} (h : bench.start = (true, begun)) :
    begun.worker.isAlive = true ∧ begun.decoder = .new bench.settings.maxPayload ∧
      begun.inbox = [] ∧ begun.handlers = bench.handlers ∧ begun.journal = bench.journal := by
  unfold WorkerBench.start at h
  split at h
  · rename_i hWorker
    cases h
    exact ⟨LinkWorker.isAlive_of_start hWorker, rfl, rfl, rfl, rfl⟩
  · cases h

/-- The worker reads a beginning of what is written before it ends, and the handlers note the calls
for the frames in it and for the end. -/
theorem Named.notes_of_run {bench begun last : WorkerBench} {written : List UInt8}
    (h : bench.Named) (hStart : bench.start = (true, begun)) (hRuns : begun.Runs written last)
    (hEnded : last.worker.isAlive = false) :
    ∃ read unread, written = read ++ unread ∧
      last.noted = bench.noted.hear NotingHandler.behaviour
        (callsOf bench.settings.maxPayload read) := by
  obtain ⟨hAlive, hDecoder, hEmpty, hHandlers, hJournal⟩ := start_eq hStart
  obtain ⟨hBegun, hNoted⟩ := h.congr hHandlers hJournal
  obtain ⟨turns, unread, hTurns, hInbox, -⟩ := (hRuns.tracks hBegun).turns
  -- What comes behind a turn that ends the loop is not read.
  obtain ⟨skipped, hSkipped⟩ : ∃ skipped, turns.flatMap LoopTurn.bytes =
      LoopTurn.bytesRead turns ++ skipped := by
    refine ⟨(turns.dropWhile LoopTurn.goesOn).flatMap LoopTurn.bytes, ?_⟩
    rw [LoopTurn.bytesRead, ← List.flatMap_append, List.takeWhile_append_dropWhile]
  refine ⟨LoopTurn.bytesRead turns, skipped ++ unread, ?_, ?_⟩
  · rw [← List.append_assoc, ← hSkipped, ← hInbox, hEmpty, List.nil_append]
  · have hLast := hTurns []
    rw [List.append_nil, outcome, if_pos hAlive, outcome, hEnded, hDecoder, hNoted, runLoop_eq,
      Frame.Decoder.feed_new] at hLast
    exact hLast.symm

end WorkerBench

/-- Every handler gets the valid frames of its address in the bytes that are read before the loop
ends, each once and in the order of the wire, and then it is told once that the loop has ended. What
it or another handler makes of a call changes neither the calls of anybody nor when the loop ends.
So the handlers of a worker note their calls, whenever it reads and is stopped. -/
theorem handlers_called_exactly {Handler : Type} (behaviour : HandlerBehaviour Handler)
    (handlers : Handlers Handler) (settings : WorkerSettings) (events : List LinkEvent) :
    let turns := events.flatMap (LinkEvent.turns settings)
    let calls := callsOf settings.maxPayload (LinkEvent.bytesRead events)
    let recorders : Handlers (Handler × List HandlerCall) :=
      handlers.map fun entry => (entry.1, entry.2, [])
    runLoop behaviour (.new settings.maxPayload) handlers turns = handlers.hear behaviour calls ∧
      runLoop behaviour.recording (.new settings.maxPayload) recorders turns =
        handlers.map (fun entry =>
          (entry.1, behaviour.after (calls entry.1) entry.2, calls entry.1)) ∧
      (∀ (Other : Type) (other : HandlerBehaviour Other) (others : Handlers Other),
        others.map Prod.fst = handlers.map Prod.fst →
          (runLoop other.recording (.new settings.maxPayload)
              (others.map fun entry => (entry.1, entry.2, [])) turns).map
                (fun entry => (entry.1, entry.2.2)) =
            (runLoop behaviour.recording (.new settings.maxPayload) recorders turns).map
              fun entry => (entry.1, entry.2.2)) ∧
      ∀ (bench begun last : WorkerBench) (written : List UInt8), bench.Named →
        bench.start = (true, begun) → begun.Runs written last → last.worker.isAlive = false →
          ∃ read unread, written = read ++ unread ∧
            last.noted = bench.noted.hear NotingHandler.behaviour
              (callsOf bench.settings.maxPayload read) := by
  intro turns calls recorders
  have hBytes : LoopTurn.bytesRead turns = LinkEvent.bytesRead events :=
    LinkEvent.bytesRead_turns settings events
  have hCalls : ∀ (Other : Type) (other : HandlerBehaviour Other) (others : Handlers Other),
      (runLoop other.recording (.new settings.maxPayload)
          (others.map fun entry => (entry.1, entry.2, [])) turns).map
            (fun entry => (entry.1, entry.2.2)) =
        (others.map Prod.fst).map fun address => (address, calls address) := by
    intro Other other others
    rw [runLoop_recording, hBytes, List.map_map, List.map_map]
    rfl
  refine ⟨?_, ?_, fun Other other others hAddresses => ?_, ?_⟩
  · rw [runLoop_eq, Frame.Decoder.feed_new, hBytes]
    rfl
  · rw [runLoop_recording, hBytes]
  · rw [hCalls, hCalls, hAddresses]
  · intro bench begun last written hNamed hStart hRuns hEnded
    exact hNamed.notes_of_run hStart hRuns hEnded

/-- Beside a handler that panics another one gets its frame, also when the link is read in pieces
and does not become ready at first. -/
theorem handlers_called_beside_panic :
    let settings : WorkerSettings := ⟨.ofMilliseconds 100, .ofSeconds 1, 3, 16⟩
    let handlers : Handlers NotingHandler :=
      [(1, ⟨"first", .panic, [], []⟩), (2, ⟨"second", .collect, [], []⟩)]
    let bench : WorkerBench :=
      { WorkerBench.new settings with handlers, journal := [("first", []), ("second", [])] }
    let wire := Frame.encode 1 [7] ++ Frame.encode 2 [8]
    let turns := [.nothingReady, .ready wire, .endOfStream].flatMap (LinkEvent.turns settings)
    (runLoop NotingHandler.behaviour.recording (.new 16)
        (handlers.map fun entry => (entry.1, entry.2, [])) turns).map
          (fun entry => (entry.1, entry.2.2)) =
        [(1, [.frame ⟨1, [7], true⟩, .close]), (2, [.frame ⟨2, [8], true⟩, .close])] ∧
      ∃ begun last read unread, bench.start = (true, begun) ∧ begun.Runs wire last ∧
        last.worker.isAlive = false ∧ wire = read ++ unread ∧
        last.noted = bench.noted.hear NotingHandler.behaviour (callsOf 16 read) := by
  intro settings handlers bench wire turns
  obtain ⟨-, hCalls, -, hBench⟩ := handlers_called_exactly NotingHandler.behaviour handlers settings
    [.nothingReady, .ready wire, .endOfStream]
  have hNamed : bench.Named := ⟨by decide, by decide⟩
  have hFirst : callsOf settings.maxPayload wire 1 = [.frame ⟨1, [7], true⟩, .close] := by
    decide +kernel
  have hSecond : callsOf settings.maxPayload wire 2 = [.frame ⟨2, [8], true⟩, .close] := by
    decide +kernel
  obtain ⟨next, hWrite⟩ : ∃ next, bench.start.2.write wire = some next := ⟨_, rfl⟩
  have hBegun : bench.start.2.Runs [] bench.start.2 := .refl
  have hRuns := (hBegun.write hWrite).stop
  have hStopped : (bench.start.2.write wire).map (fun next => next.stop.2.worker.isAlive) =
      some false := by decide +kernel
  rw [hWrite] at hStopped
  have hGone := Option.some.inj hStopped
  obtain ⟨read, unread, hRead, hNoted⟩ := hBench bench _ _ _ hNamed rfl hRuns hGone
  refine ⟨?_, _, _, read, unread, rfl, hRuns, hGone, hRead, hNoted⟩
  have hWire : LinkEvent.bytesRead [.nothingReady, .ready wire, .endOfStream] = wire :=
    List.append_nil wire
  rw [hCalls, hWire, List.map_map]
  simp only [handlers, List.map_cons, List.map_nil, Function.comp_apply, hFirst, hSecond]

end DeviceRig
