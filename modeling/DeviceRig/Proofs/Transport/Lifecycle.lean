import DeviceRig.Proofs.Frame.Stream
import DeviceRig.Proofs.Transport.Receiving
import Mathlib.Logic.Relation

/-!
# The life of a transport

A transport is opened, used and closed in any order, and everything below it
may fail in any way. Link and channel come and go together, at most one thread
runs, and what is in the channel and in the sink came through the thread of the
last opening, even if a thread has outlived its closing.
-/
namespace DeviceRig

open Json

/-- A thread that was started for the worker, and the bytes that it has read. -/
structure ReaderThread where
  status : ThreadStatus
  heard : List UInt8

namespace ReaderThread

def awaited (thread : ReaderThread) : LinkWorker.StopWait → ReaderThread
  | .finishes => { thread with status := .finished }
  | .panics => { thread with status := .panicked }
  | .outlives => thread

def heardByLatest : List ReaderThread → List UInt8
  | [] => []
  | latest :: _ => latest.heard

def AllEnded (threads : List ReaderThread) : Prop :=
  ∀ thread ∈ threads, thread.status ≠ .running

/-- The worker holds the latest thread or none, and no other thread runs. -/
inductive Held : Option WorkerThread → List ReaderThread → Prop where
  | free {threads : List ReaderThread} (hEnded : AllEnded threads) : Held none threads
  | busy {thread : WorkerThread} {latest : ReaderThread} {earlier : List ReaderThread}
      (hStatus : latest.status = thread.status) (hEnded : AllEnded earlier) :
      Held (some thread) (latest :: earlier)

theorem Held.count_le {held : Option WorkerThread} {threads : List ReaderThread}
    (h : Held held threads) : threads.countP (fun thread => thread.status = .running) ≤ 1 := by
  have hNone : ∀ {ended : List ReaderThread}, AllEnded ended →
      ended.countP (fun thread => thread.status = .running) = 0 := by
    intro ended hEnded
    rw [List.countP_eq_zero]
    intro thread hThread
    simpa using hEnded thread hThread
  cases h with
  | free hEnded => simp [hNone hEnded]
  | busy hStatus hEnded =>
    rw [List.countP_cons, hNone hEnded]
    split <;> omega

theorem Held.of_running {held : Option WorkerThread} {newer earlier : List ReaderThread}
    {heard : List UInt8} (h : Held held (newer ++ ⟨.running, heard⟩ :: earlier)) :
    newer = [] ∧ AllEnded earlier ∧ ∃ stopRequested, held = some ⟨.running, stopRequested⟩ := by
  generalize hThreads : newer ++ ⟨.running, heard⟩ :: earlier = threads at h
  cases h with
  | free hEnded =>
    subst hThreads
    exact absurd rfl (hEnded ⟨.running, heard⟩ (by simp))
  | @busy thread latest ended hStatus hEnded =>
    cases newer with
    | nil =>
      obtain ⟨rfl, rfl⟩ := List.cons.inj hThreads
      obtain ⟨status, stopRequested⟩ := thread
      obtain rfl : ThreadStatus.running = status := hStatus
      exact ⟨rfl, hEnded, stopRequested, rfl⟩
    | cons newest newer =>
      obtain ⟨rfl, rfl⟩ := List.cons.inj hThreads
      exact absurd rfl (hEnded ⟨.running, heard⟩ (by simp))

theorem Held.allEnded {threads : List ReaderThread} (h : Held none threads) : AllEnded threads := by
  cases h with
  | free hEnded => exact hEnded

def stopped (worker : LinkWorker) (wait : LinkWorker.StopWait) (threads : List ReaderThread) :
    List ReaderThread :=
  if worker.isAlive then threads.modifyHead fun latest => latest.awaited wait else threads

theorem heardByLatest_stopped (worker : LinkWorker) (wait : LinkWorker.StopWait)
    (threads : List ReaderThread) :
    heardByLatest (stopped worker wait threads) = heardByLatest threads := by
  unfold stopped
  split
  · cases threads with
    | nil => rfl
    | cons latest earlier => cases wait <;> rfl
  · rfl

theorem Held.stop {worker : LinkWorker} {threads : List ReaderThread}
    (h : Held worker.thread threads) (wait : LinkWorker.StopWait) :
    Held (worker.stop wait).2.thread (stopped worker wait threads) := by
  obtain ⟨joinTimeout, held⟩ := worker
  cases h with
  | free hEnded => exact .free hEnded
  | @busy thread latest earlier hStatus hEnded =>
    obtain ⟨status, stopRequested⟩ := thread
    cases status with
    | running =>
      cases wait with
      | finishes => exact .free (List.forall_mem_cons.mpr ⟨nofun, hEnded⟩)
      | panics => exact .free (List.forall_mem_cons.mpr ⟨nofun, hEnded⟩)
      | outlives => exact .busy hStatus hEnded
    | finished | panicked =>
      have hLatest : latest.status ≠ .running := by
        rw [hStatus]
        exact nofun
      exact .free (List.forall_mem_cons.mpr ⟨hLatest, hEnded⟩)

end ReaderThread

namespace Transport

/-- What the channel and the sink have come through the worker, from these bytes. -/
structure Heard (transport : Transport) (bytes : List UInt8) : Prop where
  decoder : transport.decoder =
    ((Frame.Decoder.new transport.settings.worker.maxPayload).feed bytes).1
  logs : transport.logs.chunks <:+
    LogSink.chunksOf (Frame.ofWire transport.settings.worker.maxPayload bytes)
  replies : ∀ channel, transport.workerChannel = some channel → ∀ entry ∈ channel.mailboxes,
    ∃ frame ∈ Frame.ofWire transport.settings.worker.maxPayload bytes, frame.valid = true ∧
      frame.address = Frame.callAddress ∧ frame.response? = some entry

theorem heard_nothing {transport : Transport}
    (hDecoder : transport.decoder = .new transport.settings.worker.maxPayload)
    (hLogs : transport.logs.chunks = [])
    (hReplies : ∀ channel, transport.workerChannel = some channel → channel.mailboxes = []) :
    transport.Heard [] where
  decoder := by
    rw [hDecoder, Frame.Decoder.feed_eq_walk]
    rfl
  logs := by
    rw [hLogs]
    exact List.nil_suffix
  replies channel hChannel entry hEntry := by
    rw [hReplies channel hChannel] at hEntry
    cases hEntry

/-- The decoder keeps what a frame lacks, so what a thread has read so far can be taken together. -/
theorem Heard.receive {transport : Transport} {bytes : List UInt8} (h : transport.Heard bytes)
    {channel : CallChannel} (hAlive : transport.worker.isAlive = true)
    (hChannel : transport.workerChannel = some channel) (more : List UInt8) :
    (transport.receive more).Heard (bytes ++ more) := by
  have hWire : Frame.ofWire transport.settings.worker.maxPayload (bytes ++ more) =
      Frame.ofWire transport.settings.worker.maxPayload bytes ++
        (transport.decoder.feed more).2 := by
    rw [← Frame.Decoder.feed_new, ← Frame.Decoder.feed_new, Frame.Decoder.feed_append, h.decoder]
  obtain ⟨calls, retired, hAfter, hSame, -, -⟩ :=
    withChannel_eq transport (channel.handleAll (transport.decoder.feed more).2)
  rw [receive_eq hAlive hChannel, hAfter]
  constructor
  · rw [Frame.Decoder.feed_append, ← h.decoder]
  · obtain ⟨lost, hLost⟩ := h.logs
    rw [hWire, LogSink.chunksOf_append, ← hLost, List.append_assoc]
    exact (LogSink.chunks_handleAll _ _).trans (List.suffix_append lost _)
  · intro other hOther entry hEntry
    obtain rfl := Option.some.inj (hSame.symm.trans hOther)
    rw [hWire]
    rcases CallChannel.mem_mailboxes_handleAll hEntry with hOld | ⟨frame, hFrame, hCarries⟩
    · obtain ⟨frame, hFrame, hCarries⟩ := h.replies channel hChannel entry hOld
      exact ⟨frame, List.mem_append_left _ hFrame, hCarries⟩
    · exact ⟨frame, List.mem_append_right _ hFrame, hCarries⟩

/-- Nothing new is heard while the decoder rests and nothing is put into the sink or a mailbox. -/
theorem Heard.mono {transport after : Transport} {bytes : List UInt8} (h : transport.Heard bytes)
    (hSettings : after.settings = transport.settings) (hDecoder : after.decoder = transport.decoder)
    (hLogs : after.logs.chunks <:+ transport.logs.chunks)
    (hReplies : ∀ channel, after.workerChannel = some channel → ∀ entry ∈ channel.mailboxes,
      ∃ old, transport.workerChannel = some old ∧ entry ∈ old.mailboxes) :
    after.Heard bytes where
  decoder := by rw [hDecoder, hSettings, h.decoder]
  logs := by
    rw [hSettings]
    exact hLogs.trans h.logs
  replies channel hChannel entry hEntry := by
    obtain ⟨old, hOld, hMem⟩ := hReplies channel hChannel entry hEntry
    rw [hSettings]
    exact h.replies old hOld entry hMem

theorem Heard.congr {transport after : Transport} {bytes : List UInt8} (h : transport.Heard bytes)
    (hSettings : after.settings = transport.settings) (hDecoder : after.decoder = transport.decoder)
    (hLogs : after.logs.chunks <:+ transport.logs.chunks)
    (hSame : after.workerChannel = transport.workerChannel) : after.Heard bytes :=
  h.mono hSettings hDecoder hLogs fun channel hChannel _ hEntry =>
    ⟨channel, hSame.symm.trans hChannel, hEntry⟩

end Transport

open ReaderThread Transport

/-- A transport in use, with all threads that were started for it, the latest first. -/
structure TransportRun where
  transport : Transport
  threads : List ReaderThread

namespace TransportRun

def start (address : LinkAddress) (settings : TransportSettings) (media : Media) : TransportRun :=
  ⟨.new address settings media, []⟩

/-- An opening that comes to the lock tries to stop the worker, and a thread is started if it
succeeds. -/
def opened (run : TransportRun) (conditions : OpenConditions) : TransportRun :=
  let (answer, transport, actions) := run.transport.openLink conditions
  let threads := if .lock ∈ actions then stopped run.transport.worker conditions.stop run.threads
    else run.threads
  match answer with
  | .ok () => ⟨transport, ⟨.running, []⟩ :: threads⟩
  | .error _ => ⟨transport, threads⟩

def closed (run : TransportRun) (conditions : CloseConditions) : TransportRun :=
  let (_, transport, actions) := run.transport.closeLink conditions
  ⟨transport, if .unlock ∈ actions then stopped run.transport.worker conditions.stop run.threads
    else run.threads⟩

/-- The steps of whoever uses the transport, and of any of its threads that runs. -/
inductive Step : TransportRun → TransportRun → Prop where
  | opens (run : TransportRun) (conditions : OpenConditions) : Step run (run.opened conditions)
  | closes (run : TransportRun) (conditions : CloseConditions) : Step run (run.closed conditions)
  | begins (run : TransportRun) (service method : String) (kwargs : Value)
      (conditions : SendConditions) :
      Step run { run with
        transport := (run.transport.beginCall service method kwargs conditions).2.2 }
  | comesBack (run : TransportRun) (id : UInt32) (service method : String) :
      Step run { run with transport := (run.transport.finishCall id service method).2 }
  | readsLog (run : TransportRun) : Step run { run with transport := run.transport.readLog.2 }
  | hears {run : TransportRun} {newer earlier : List ReaderThread} {heard : List UInt8}
      (hRunning : run.threads = newer ++ ⟨.running, heard⟩ :: earlier) (bytes : List UInt8) :
      Step run ⟨run.transport.receive bytes, newer ++ ⟨.running, heard ++ bytes⟩ :: earlier⟩
  /-- A thread leaves its loop, since the peer has hung up or it was told to stop. -/
  | ends {run : TransportRun} {newer earlier : List ReaderThread} {heard : List UInt8}
      (hRunning : run.threads = newer ++ ⟨.running, heard⟩ :: earlier) :
      Step run ⟨run.transport.hangUp, newer ++ ⟨.finished, heard⟩ :: earlier⟩
  | panics {run : TransportRun} {newer earlier : List ReaderThread} {heard : List UInt8}
      (hRunning : run.threads = newer ++ ⟨.running, heard⟩ :: earlier) :
      Step run ⟨run.transport.crash, newer ++ ⟨.panicked, heard⟩ :: earlier⟩

abbrev Leads : TransportRun → TransportRun → Prop :=
  Relation.ReflTransGen Step

structure Sound (run : TransportRun) : Prop where
  linked : run.transport.holdsLink = run.transport.calls.isSome
  held : Held run.transport.worker.thread run.threads
  served : run.transport.worker.isAlive = true →
    ∃ channel, run.transport.workerChannel = some channel
  retired : ∀ channel, run.transport.retired = some channel → channel.IsShut
  heard : run.transport.Heard (heardByLatest run.threads)

theorem sound_start (address : LinkAddress) (settings : TransportSettings) (media : Media) :
    (start address settings media).Sound where
  linked := rfl
  held := .free (List.forall_mem_nil _)
  served := nofun
  retired := nofun
  heard := heard_nothing rfl rfl nofun

variable {run : TransportRun}

/-- A stop of the worker, whatever it meets, and the channel and the sink as they were. -/
theorem Sound.stop (h : run.Sound) (wait : LinkWorker.StopWait) :
    Sound ⟨{ run.transport with worker := (run.transport.worker.stop wait).2 },
      ReaderThread.stopped run.transport.worker wait run.threads⟩ where
  linked := h.linked
  held := h.held.stop wait
  served hAlive := h.served (LinkWorker.isAlive_of_stop hAlive)
  retired := h.retired
  heard := by
    rw [heardByLatest_stopped]
    exact h.heard.congr rfl rfl List.suffix_rfl rfl

theorem Sound.allEnded (h : run.Sound) {wait : LinkWorker.StopWait}
    (hStop : (run.transport.worker.stop wait).1 = .ok ()) :
    AllEnded (stopped run.transport.worker wait run.threads) := by
  have hHeld := h.held.stop wait
  have hNone : (run.transport.worker.stop wait).2 = { run.transport.worker with thread := none } :=
    LinkWorker.stop_eq_ok (Prod.ext hStop rfl)
  rw [hNone] at hHeld
  exact hHeld.allEnded

theorem Sound.opened (h : run.Sound) (conditions : OpenConditions) :
    (run.opened conditions).Sound := by
  have hOpens := run.transport.opens conditions
  have hStopped := h.stop conditions.stop
  unfold TransportRun.opened
  generalize run.transport.openLink conditions = outcome at hOpens ⊢
  cases hOpens with
  | held hHeld => exact h
  | notLocked hFree hError hActions =>
    dsimp only
    rw [if_neg hActions]
    exact h
  | notStarted hFree hStarts =>
    cases hStarts with
    | notStopped hStop => exact hStopped
    | notStarted hStop hError hKept =>
      have hCalls := calls_eq_none h.linked hFree
      refine ⟨h.linked, .free (h.allEnded hStop), ?_, ?_, ?_⟩
      · intro hAlive
        cases hAlive
      · rcases hKept with ⟨-, rfl⟩ | ⟨-, rfl⟩
        · exact h.retired
        · intro channel hChannel
          cases hChannel
      · refine hStopped.heard.mono rfl rfl ?_ ?_
        · rcases hKept with ⟨rfl, -⟩ | ⟨rfl, -⟩
          · exact List.suffix_rfl
          · exact List.nil_suffix
        · intro channel hChannel entry hEntry
          rcases hKept with ⟨-, rfl⟩ | ⟨-, rfl⟩
          · exact ⟨channel, hChannel, hEntry⟩
          · simp [workerChannel, hCalls] at hChannel
  | opened hFree hStarts =>
    cases hStarts with
    | started hStop =>
      refine ⟨rfl, .busy rfl (h.allEnded hStop), fun _ => ⟨.new, rfl⟩, ?_, ?_⟩
      · intro channel hChannel
        cases hChannel
      · refine heard_nothing rfl rfl fun channel hChannel => ?_
        obtain rfl := Option.some.inj hChannel
        rfl

theorem Sound.closed (h : run.Sound) (conditions : CloseConditions) :
    (run.closed conditions).Sound := by
  have hCloses := run.transport.closes conditions
  have hStopped := h.stop conditions.stop
  unfold TransportRun.closed
  generalize run.transport.closeLink conditions = outcome at hCloses ⊢
  have hClosed : run.transport.holdsLink = true →
      Sound ⟨run.transport.afterClosing conditions,
        stopped run.transport.worker conditions.stop run.threads⟩ := by
    intro hHeld
    obtain ⟨channel, hCalls⟩ := Option.isSome_iff_exists.mp (h.linked.symm.trans hHeld)
    have hRetired : run.transport.calls.map CallChannel.close = some channel.close := by
      rw [hCalls]
      rfl
    refine ⟨rfl, hStopped.held, fun _ => ⟨channel.close, hRetired⟩, ?_, ?_⟩
    · intro other hOther
      obtain rfl := Option.some.inj (hRetired.symm.trans hOther)
      exact channel.isShut_close
    · refine hStopped.heard.mono rfl rfl List.suffix_rfl ?_
      intro other hOther entry hEntry
      obtain rfl := Option.some.inj (hRetired.symm.trans hOther)
      exact ⟨channel, workerChannel_of_calls hCalls, hEntry⟩
  cases hCloses with
  | free hFree => exact h
  | closed hHeld hStop hUnlock hActions =>
    dsimp only
    rw [if_pos (hActions List.mem_cons_self)]
    exact hClosed hHeld
  | notClosed hHeld hSome hStop hUnlock hActions =>
    dsimp only
    rw [if_pos (hActions List.mem_cons_self)]
    exact hClosed hHeld

theorem Sound.withCalls (h : run.Sound) {channel other : CallChannel}
    (hCalls : run.transport.calls = some channel) (hFewer : other.mailboxes ⊆ channel.mailboxes) :
    Sound { run with transport := { run.transport with calls := some other } } where
  linked := h.linked.trans (by rw [hCalls]; rfl)
  held := h.held
  served _ := ⟨other, rfl⟩
  retired := h.retired
  heard := by
    refine h.heard.mono rfl rfl List.suffix_rfl fun found hFound entry hEntry => ?_
    obtain rfl := Option.some.inj hFound
    exact ⟨channel, workerChannel_of_calls hCalls, hFewer hEntry⟩

theorem Sound.of_running (h : run.Sound) {newer earlier : List ReaderThread} {heard : List UInt8}
    (hRunning : run.threads = newer ++ ⟨.running, heard⟩ :: earlier) :
    newer = [] ∧ AllEnded earlier ∧
      (∃ stopRequested, run.transport.worker.thread = some ⟨.running, stopRequested⟩) ∧
      run.transport.worker.isAlive = true ∧
      (∃ channel, run.transport.workerChannel = some channel) ∧ run.transport.Heard heard := by
  have hHeld := h.held
  have hHeard := h.heard
  rw [hRunning] at hHeld hHeard
  obtain ⟨rfl, hEnded, stopRequested, hThread⟩ := hHeld.of_running
  have hAlive : run.transport.worker.isAlive = true := by
    rw [LinkWorker.isAlive, hThread]
    rfl
  exact ⟨rfl, hEnded, ⟨stopRequested, hThread⟩, hAlive, h.served hAlive, hHeard⟩

theorem Sound.withChannel (h : run.Sound) {channel other : CallChannel}
    (hChannel : run.transport.workerChannel = some channel)
    (hShut : channel.IsShut → other.IsShut) :
    (run.transport.withChannel other).holdsLink =
        (run.transport.withChannel other).calls.isSome ∧
      (run.transport.withChannel other).workerChannel = some other ∧
      ∀ found, (run.transport.withChannel other).retired = some found → found.IsShut := by
  obtain ⟨calls, retired, hAfter, hSame, hSome, hRetired⟩ :=
    run.transport.withChannel_eq other
  rw [hAfter]
  refine ⟨h.linked.trans hSome.symm, hSame, fun found hFound => ?_⟩
  rcases hRetired with rfl | ⟨hNone, rfl⟩
  · exact h.retired found hFound
  · obtain rfl := Option.some.inj hFound
    rw [workerChannel, hNone, Option.none_or] at hChannel
    exact hShut (h.retired channel hChannel)

theorem Sound.step {next : TransportRun} (h : run.Sound) (hStep : Step run next) : next.Sound := by
  cases hStep with
  | opens conditions => exact h.opened conditions
  | closes conditions => exact h.closed conditions
  | begins service method kwargs conditions =>
    rcases run.transport.beginCall_cases service method kwargs conditions with
      hSame | ⟨channel, id, request, begun, hCalls, hBegin⟩
    · rw [hSame]
      exact h
    · obtain ⟨other, hFewer, hOther⟩ := beginCall_of_begin hCalls hBegin conditions
      obtain ⟨members, table, -, -, -, rfl⟩ := CallChannel.begin_eq_ok hBegin
      rw [hOther]
      exact h.withCalls hCalls hFewer.mailboxes
  | comesBack id service method =>
    cases hCalls : run.transport.calls with
    | none =>
      rw [finishCall_of_none hCalls]
      exact h
    | some channel =>
      rw [finishCall_of_calls hCalls]
      exact h.withCalls hCalls (channel.fewer_finish _ id service method).mailboxes
  | readsLog =>
    unfold readLog
    split
    · exact ⟨h.linked, h.held, h.served, h.retired,
        h.heard.congr rfl rfl (LogSink.chunks_read _) rfl⟩
    · exact h
  | hears hRunning bytes =>
    obtain ⟨rfl, hEnded, ⟨stopRequested, hThread⟩, hAlive, ⟨channel, hChannel⟩, hHeard⟩ :=
      h.of_running hRunning
    have hNext := hHeard.receive hAlive hChannel bytes
    obtain ⟨hLinked, hServed, hRetired⟩ := h.withChannel hChannel fun hShut =>
      hShut.handleAll (run.transport.decoder.feed bytes).2
    obtain ⟨calls, retired, hAfter, -⟩ := run.transport.withChannel_eq
      (channel.handleAll (run.transport.decoder.feed bytes).2)
    rw [receive_eq hAlive hChannel] at hNext ⊢
    refine ⟨hLinked, ?_, fun _ => ⟨_, hServed⟩, hRetired, hNext⟩
    rw [hAfter]
    dsimp only
    rw [hThread]
    exact .busy rfl hEnded
  | ends hRunning =>
    obtain ⟨rfl, hEnded, ⟨stopRequested, hThread⟩, hAlive, ⟨channel, hChannel⟩, hHeard⟩ :=
      h.of_running hRunning
    obtain ⟨hLinked, hServed, hRetired⟩ := h.withChannel hChannel fun _ => channel.isShut_close
    obtain ⟨calls, retired, hAfter, hSame, -⟩ := run.transport.withChannel_eq channel.close
    rw [hangUp_eq hAlive hChannel]
    refine ⟨hLinked, ?_, fun _ => ⟨_, hServed⟩, hRetired, ?_⟩
    · rw [LinkWorker.threadEnds, hThread]
      exact .busy rfl hEnded
    · rw [hAfter]
      refine hHeard.mono rfl rfl List.suffix_rfl fun found hFound entry hEntry => ?_
      obtain rfl := Option.some.inj (hSame.symm.trans hFound)
      exact ⟨channel, hChannel, hEntry⟩
  | panics hRunning =>
    obtain ⟨rfl, hEnded, ⟨stopRequested, hThread⟩, hAlive, hChannel, hHeard⟩ :=
      h.of_running hRunning
    refine ⟨h.linked, ?_, fun _ => hChannel, h.retired,
      hHeard.congr rfl rfl List.suffix_rfl rfl⟩
    rw [crash, LinkWorker.threadEnds, hThread]
    exact .busy rfl hEnded

theorem Sound.leads {next : TransportRun} (h : run.Sound) (hLeads : Leads run next) :
    next.Sound := by
  induction hLeads with
  | refl => exact h
  | tail _ hStep ih => exact ih.step hStep

/-- What is promised at all times: link and channel come and go together, and one thread runs at
most, through which all came that is in the channel and in the sink. -/
structure Orderly (run : TransportRun) : Prop where
  linked : run.transport.holdsLink = run.transport.calls.isSome
  oneThread : run.threads.countP (fun thread => thread.status = .running) ≤ 1
  heard : run.transport.Heard (heardByLatest run.threads)

/-- What is promised of an opening with an answer and the operations that it undertook. -/
structure OpensWell (run : TransportRun) (answer : Except TransportError Unit)
    (after : TransportRun) (actions : List LinkAction) : Prop where
  alreadyOpen : answer = .error .alreadyOpen ↔ run.transport.holdsLink = true
  unchanged : run.transport.holdsLink = true → after = run ∧ actions = []
  failed : ∀ error, answer = .error error → error ≠ .alreadyOpen →
    after.transport.holdsLink = false ∧ after.transport.calls = none ∧
      (after.transport.worker.isAlive = true → run.transport.worker.isAlive = true) ∧
      (.lock ∈ actions → .unlock ∈ actions)
  opened : answer = .ok () →
    after.transport.holdsLink = true ∧ after.transport.calls = some .new ∧
      after.transport.logs.chunks = [] ∧
      ∃ ended, AllEnded ended ∧ after.threads = ⟨.running, []⟩ :: ended

structure ClosesWell (run : TransportRun) (conditions : CloseConditions)
    (answer : Except TransportError Unit) (after : TransportRun) (actions : List LinkAction) :
    Prop where
  unchanged : run.transport.holdsLink = false → answer = .ok () ∧ after = run ∧ actions = []
  gone : after.transport.holdsLink = false ∧ after.transport.calls = none
  pending : ∀ channel, run.transport.calls = some channel →
    after.transport.workerChannel = some channel.close ∧
      ∀ id ∈ channel.table.pending, channel.inbox id = none → ∀ settings service method,
        (channel.close.finish settings id service method).1 = .error .disconnected
  tried : run.transport.holdsLink = true →
    after.transport.worker = (run.transport.worker.stop conditions.stop).2 ∧ .unlock ∈ actions
  succeeded : run.transport.holdsLink = true →
    (answer = .ok () ↔
      (run.transport.worker.stop conditions.stop).1 = .ok () ∧ conditions.unlock = .ok ())
  ended : run.transport.holdsLink = true → answer = .ok () → AllEnded after.threads
  told : ∀ error, answer = .error error → ∃ worker link, error = .notClosed worker link ∧
    (run.transport.worker.stop conditions.stop).1 = worker.elim (.ok ()) .error ∧
      conditions.unlock = link.elim (.ok ()) .error

theorem Sound.opensWell (h : run.Sound) (conditions : OpenConditions) :
    run.OpensWell (run.transport.openLink conditions).1 (run.opened conditions)
      (run.transport.openLink conditions).2.2 := by
  have hOpens := run.transport.opens conditions
  unfold TransportRun.opened
  generalize run.transport.openLink conditions = outcome at hOpens ⊢
  cases hOpens with
  | held hHeld =>
    refine ⟨iff_of_true rfl hHeld, fun _ => ⟨rfl, rfl⟩, ?_, nofun⟩
    intro error hError hOther
    cases hError
    exact absurd rfl hOther
  | @notLocked error actions hFree hError hActions =>
    have hAnswer : Except.error error ≠ (.error .alreadyOpen : Except TransportError Unit) :=
      fun hSame => hError (Except.error.inj hSame)
    refine ⟨iff_of_false hAnswer (by simp [hFree]), ?_, ?_, nofun⟩
    · intro hHeld
      rw [hFree] at hHeld
      cases hHeld
    · intro other hOther hNot
      dsimp only
      exact ⟨hFree, calls_eq_none h.linked hFree, id, fun hLock => absurd hLock hActions⟩
  | @notStarted error after hFree hStarts =>
    have hKept : error ≠ .alreadyOpen ∧ after.holdsLink = false ∧ after.calls = none ∧
        (after.worker.isAlive = true → run.transport.worker.isAlive = true) := by
      cases hStarts with
      | notStopped hStop =>
        exact ⟨nofun, hFree, calls_eq_none h.linked hFree, LinkWorker.isAlive_of_stop⟩
      | notStarted hStop hError hKept =>
        exact ⟨hError, hFree, calls_eq_none h.linked hFree, nofun⟩
    obtain ⟨hError, hLink, hCalls, hAlive⟩ := hKept
    have hAnswer : Except.error error ≠ (.error .alreadyOpen : Except TransportError Unit) :=
      fun hSame => hError (Except.error.inj hSame)
    refine ⟨iff_of_false hAnswer (by simp [hFree]), ?_, ?_, nofun⟩
    · intro hHeld
      rw [hFree] at hHeld
      cases hHeld
    · intro other hOther hNot
      exact ⟨hLink, hCalls, hAlive, fun _ => List.mem_cons_of_mem _ (by decide)⟩
  | opened hFree hStarts =>
    cases hStarts with
    | started hStop =>
      have hEnded := h.allEnded hStop
      dsimp only
      rw [if_pos (by decide)]
      refine ⟨iff_of_false nofun (by simp [hFree]), ?_, fun error hError => ?_, ?_⟩
      · intro hHeld
        rw [hFree] at hHeld
        cases hHeld
      · cases hError
      · intro _
        exact ⟨rfl, rfl, rfl, _, hEnded, rfl⟩

theorem pending_afterClosing (transport : Transport) (conditions : CloseConditions)
    (channel : CallChannel) (hCalls : transport.calls = some channel) :
    (transport.afterClosing conditions).workerChannel = some channel.close ∧
      ∀ id ∈ channel.table.pending, channel.inbox id = none → ∀ settings service method,
        (channel.close.finish settings id service method).1 = .error .disconnected := by
  constructor
  · rw [workerChannel, Transport.afterClosing, hCalls]
    rfl
  · intro id hPending hEmpty settings service method
    exact channel.isShut_close.finish hEmpty settings service method

theorem Sound.closesWell (h : run.Sound) (conditions : CloseConditions) :
    run.ClosesWell conditions (run.transport.closeLink conditions).1 (run.closed conditions)
      (run.transport.closeLink conditions).2.2 := by
  have hCloses := run.transport.closes conditions
  unfold TransportRun.closed
  generalize run.transport.closeLink conditions = outcome at hCloses ⊢
  cases hCloses with
  | free hFree =>
    have hCalls := calls_eq_none h.linked hFree
    have hNot : run.transport.holdsLink ≠ true := by simp [hFree]
    refine ⟨fun _ => ⟨rfl, rfl, rfl⟩, ⟨hFree, hCalls⟩, ?_, fun hHeld => absurd hHeld hNot,
      fun hHeld => absurd hHeld hNot, fun hHeld => absurd hHeld hNot, fun error hError => ?_⟩
    · intro channel hChannel
      rw [hCalls] at hChannel
      cases hChannel
    · cases hError
  | closed hHeld hStop hUnlock hActions =>
    have hTried := hActions List.mem_cons_self
    have hEnded := h.allEnded hStop
    dsimp only
    rw [if_pos hTried]
    refine ⟨by simp [hHeld], ⟨rfl, rfl⟩, pending_afterClosing run.transport conditions,
      fun _ => ⟨rfl, hTried⟩, fun _ => iff_of_true rfl ⟨hStop, hUnlock⟩,
      fun _ _ => hEnded, fun error hError => ?_⟩
    cases hError
  | @notClosed worker link actions hHeld hSome hStop hUnlock hActions =>
    have hTried := hActions List.mem_cons_self
    dsimp only
    rw [if_pos hTried]
    refine ⟨by simp [hHeld], ⟨rfl, rfl⟩, pending_afterClosing run.transport conditions,
      fun _ => ⟨rfl, hTried⟩, fun _ => iff_of_false nofun ?_, nofun, ?_⟩
    · rintro ⟨hStopped, hUnlocked⟩
      rcases hSome with hWorker | hLink
      · cases worker with
        | none => exact hWorker rfl
        | some error => cases hStop.symm.trans hStopped
      · cases link with
        | none => exact hLink rfl
        | some error => cases hUnlock.symm.trans hUnlocked
    · intro error hError
      cases hError
      exact ⟨worker, link, rfl, hStop, hUnlock⟩

/-- However a transport is used and whatever happens below it, it is in order between any two steps,
and every opening and closing does what it should. -/
theorem Leads.lifecycle {address : LinkAddress} {settings : TransportSettings} {media : Media}
    (hLeads : Leads (start address settings media) run) :
    run.Orderly ∧
      (∀ conditions, run.OpensWell (run.transport.openLink conditions).1 (run.opened conditions)
        (run.transport.openLink conditions).2.2) ∧
      ∀ conditions, run.ClosesWell conditions (run.transport.closeLink conditions).1
        (run.closed conditions) (run.transport.closeLink conditions).2.2 := by
  have hSound := (sound_start address settings media).leads hLeads
  exact ⟨⟨hSound.linked, hSound.held.count_le, hSound.heard⟩, hSound.opensWell, hSound.closesWell⟩

/-- A thread that has read some bytes outlives the closing, and the next opening, which waits for it
in vain, gives everything back. -/
theorem lifecycle_outlived :
    ∃ run late, Leads (start (.socket "device") .usual .all) run ∧
      run.threads = [⟨.running, [0x7E, 1]⟩] ∧ run.Orderly ∧
      (run.transport.openLink late).1 = .error (.worker (.joinTimedOut (.ofSeconds 1))) ∧
      (run.opened late).transport.holdsLink = false ∧ (run.opened late).transport.calls = none ∧
      .unlock ∈ (run.transport.openLink late).2.2 := by
  let late : OpenConditions := { favourable with stop := .outlives }
  have hOpened : Leads (start (.socket "device") .usual .all) _ := .single (.opens _ favourable)
  have hHeard := hOpened.tail (@Step.hears _ [] [] [] rfl [0x7E, 1])
  have hClosed := hHeard.tail (.closes _ ⟨.outlives, .ok ()⟩)
  obtain ⟨hOrderly, hOpens, -⟩ := Leads.lifecycle hClosed
  obtain ⟨hLink, hCalls, -, hUnlocked⟩ := (hOpens late).failed _ rfl nofun
  exact ⟨_, late, hClosed, rfl, hOrderly, rfl, hLink, hCalls, hUnlocked (by decide)⟩

end TransportRun

end DeviceRig
