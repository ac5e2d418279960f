import DeviceRig.Program.Commands
import DeviceRig.Proofs.Log.Sharing
import DeviceRig.Proofs.Transport.Receiving

/-!
# Watching the log of a device that hangs up

While a command watches the log, the worker reads the link, hands out its frames
one after the other, and leaves when the device has hung up. The command takes a
chunk and looks at the link, which are two steps; between them the worker may
push what is left and leave.
-/
namespace DeviceRig

namespace LogSink

theorem push_eq {sink : LogSink} (hRoom : 0 < sink.capacity) (chunk : List UInt8) :
    (sink.chunks.length < sink.capacity ∧ sink.push chunk = sink.append chunk) ∨
      ∃ oldest rest, sink.capacity ≤ sink.chunks.length ∧ sink.chunks = oldest :: rest ∧
        sink.push chunk = ⟨sink.capacity, rest ++ [chunk], sink.dropped + 1⟩ := by
  cases hFull : sink.isFull with
  | false => exact .inl ⟨isFull_eq_false.mp hFull, push_of_room hFull chunk⟩
  | true =>
    have hSize : sink.capacity ≤ sink.chunks.length := of_decide_eq_true hFull
    obtain ⟨capacity, chunks, dropped⟩ := sink
    cases chunks with
    | nil => exact absurd hRoom (Nat.not_lt.mpr hSize)
    | cons oldest rest =>
      exact .inr ⟨oldest, rest, hSize, rfl, push_of_full hFull rfl chunk⟩

theorem handleAll_singleton (sink : LogSink) (frame : Frame) :
    (chunksOf [frame] = [chunkOf frame.payload] ∧
        sink.handleAll [frame] = sink.push (chunkOf frame.payload)) ∨
      (chunksOf [frame] = [] ∧ sink.handleAll [frame] = sink) := by
  unfold chunksOf handleAll
  by_cases hLog : frame.valid = true ∧ frame.address = Frame.logAddress
  · rw [List.filter_cons_of_pos (by simpa using hLog)]
    exact .inl ⟨rfl, rfl⟩
  · rw [List.filter_cons_of_neg (by simpa using hLog)]
    exact .inr ⟨rfl, rfl⟩

theorem read_cases (sink : LogSink) :
    (sink.chunks = [] ∧ sink.read = ([], sink)) ∨
      ∃ chunk rest, sink.chunks = chunk :: rest ∧
        sink.read = (chunk, { sink with chunks := rest }) := by
  obtain ⟨capacity, chunks, dropped⟩ := sink
  cases chunks with
  | nil => exact .inl ⟨rfl, rfl⟩
  | cons chunk rest => exact .inr ⟨chunk, rest, rfl, rfl⟩

/-- A sink with so much room, the chunks pushed to it and those taken out by reading. As long as it
has discarded nothing, nothing is missing. -/
structure Accounts (capacity : Nat) (sink : LogSink) (pushed taken : List (List UInt8)) :
    Prop where
  room : sink.capacity = max capacity 1
  notEmpty : ∀ chunk ∈ sink.chunks, chunk ≠ []
  counted : taken.length + sink.chunks.length + sink.dropped = pushed.length
  within : pushed.length ≤ max capacity 1 → sink.dropped = 0
  order : sink.dropped = 0 → taken ++ sink.chunks = pushed

variable {capacity : Nat} {sink : LogSink} {pushed taken : List (List UInt8)}

theorem accounts_new (capacity : Nat) : Accounts capacity (new capacity) [] [] :=
  ⟨rfl, nofun, rfl, fun _ => rfl, fun _ => rfl⟩

theorem Accounts.push (h : Accounts capacity sink pushed taken) {chunk : List UInt8}
    (hChunk : chunk ≠ []) : Accounts capacity (sink.push chunk) (pushed ++ [chunk]) taken := by
  obtain ⟨hRoom, hNotEmpty, hCounted, hWithin, hOrder⟩ := h
  have hSome : 0 < sink.capacity := by omega
  rcases push_eq hSome chunk with ⟨hSpace, hPush⟩ | ⟨oldest, rest, hFull, hQueue, hPush⟩
  · rw [hPush, append]
    constructor
    case room => exact hRoom
    case notEmpty =>
      exact List.forall_mem_append.mpr ⟨hNotEmpty, List.forall_mem_singleton.mpr hChunk⟩
    case counted =>
      simp only [List.length_append, List.length_singleton]
      omega
    case within =>
      intro hFits
      rw [List.length_append] at hFits
      exact hWithin (Nat.le_of_add_right_le hFits)
    case order =>
      intro hNone
      rw [← List.append_assoc, hOrder hNone]
  · -- The oldest chunk goes from the queue to the count of those that are lost.
    rw [hPush]
    rw [hQueue] at hNotEmpty hCounted hFull
    rw [List.length_cons] at hCounted hFull
    constructor
    case room => exact hRoom
    case notEmpty =>
      exact List.forall_mem_append.mpr ⟨(List.forall_mem_cons.mp hNotEmpty).2,
        List.forall_mem_singleton.mpr hChunk⟩
    case counted =>
      simp only [List.length_append, List.length_singleton]
      omega
    case within =>
      intro hFits
      rw [List.length_append, List.length_singleton] at hFits
      omega
    case order => exact fun hNone => absurd hNone (Nat.succ_ne_zero _)

theorem Accounts.handle (h : Accounts capacity sink pushed taken) (frame : Frame) :
    Accounts capacity (sink.handleAll [frame]) (pushed ++ chunksOf [frame]) taken := by
  rcases sink.handleAll_singleton frame with ⟨hChunks, hHandled⟩ | ⟨hChunks, hHandled⟩
  · rw [hChunks, hHandled]
    exact h.push (by simp [chunkOf])
  · rw [hChunks, hHandled, List.append_nil]
    exact h

theorem Accounts.dropped_le_handle (h : Accounts capacity sink pushed taken) (frame : Frame) :
    sink.dropped ≤ (sink.handleAll [frame]).dropped := by
  have hRoom := h.room
  have hSome : 0 < sink.capacity := by omega
  rcases sink.handleAll_singleton frame with ⟨-, hHandled⟩ | ⟨-, hHandled⟩
  · rw [hHandled]
    rcases push_eq hSome (chunkOf frame.payload) with ⟨-, hPush⟩ | ⟨oldest, rest, -, -, hPush⟩
    · exact Nat.le_of_eq (congrArg LogSink.dropped hPush).symm
    · rw [hPush]
      exact Nat.le_succ _
  · exact Nat.le_of_eq (congrArg LogSink.dropped hHandled).symm

theorem Accounts.read (h : Accounts capacity sink pushed taken) :
    Accounts capacity sink.read.2 pushed (taken ++ sink.chunks.take 1) := by
  obtain ⟨hRoom, hNotEmpty, hCounted, hWithin, hOrder⟩ := id h
  rcases sink.read_cases with ⟨hQueue, hRead⟩ | ⟨chunk, rest, hQueue, hRead⟩
  · rw [hRead, hQueue, List.take_nil, List.append_nil]
    exact h
  · rw [hQueue] at hNotEmpty hCounted hOrder
    rw [hRead, hQueue]
    refine ⟨hRoom, (List.forall_mem_cons.mp hNotEmpty).2, ?_, hWithin, ?_⟩
    · simp only [List.length_append, List.length_cons, List.take_succ_cons, List.take_zero,
        List.length_nil] at hCounted ⊢
      omega
    · intro hNone
      rw [List.append_assoc]
      exact hOrder hNone

end LogSink

def Transport.hand (transport : Transport) (frame : Frame) : Transport :=
  transport.withHandlers (transport.handlers.dispatch TransportHandler.behaviour frame)

theorem Transport.hand_eq {transport : Transport} {channel : CallChannel}
    (hCalls : transport.calls = some channel) (frame : Frame) :
    transport.hand frame = { transport with
      calls := some (channel.handleAll [frame])
      logs := transport.logs.handleAll [frame] } := by
  rw [hand, handlers_eq (workerChannel_of_calls hCalls), dispatch_openHandlers]
  simp [withHandlers, openHandlers, withChannel, hCalls]

inductive WatchStage where
  | reading
  /-- It has a chunk, empty if none came in time, and looks at the link next. -/
  | looking (chunk : List UInt8)
  | closed
  | stopped
deriving DecidableEq

def WatchStage.lines : WatchStage → List String
  | .looking chunk => chunkLines chunk
  | .reading | .closed | .stopped => []

/-- A watch and the worker that it shares a transport with: the frames that the worker has read and
not handed out, the chunks that it has pushed and those that the watch has taken. -/
structure WatchedLink where
  transport : Transport
  unhandled : List Frame
  stage : WatchStage
  watch : LogWatch
  pushed : List (List UInt8)
  taken : List (List UInt8)

namespace WatchedLink

def start (transport : Transport) : WatchedLink :=
  ⟨transport, [], .reading, .start, [], []⟩

def readLink (s : WatchedLink) (bytes : List UInt8) : WatchedLink :=
  let (decoder, frames) := s.transport.decoder.feed bytes
  { s with transport := { s.transport with decoder }, unhandled := frames }

def handOut (s : WatchedLink) (frame : Frame) (rest : List Frame) : WatchedLink :=
  { s with
    transport := s.transport.hand frame
    unhandled := rest
    pushed := s.pushed ++ LogSink.chunksOf [frame] }

def takeChunk (s : WatchedLink) : WatchedLink :=
  let (chunk, transport) := s.transport.readLog
  { s with
    transport
    stage := .looking chunk
    taken := s.taken ++ s.transport.logs.chunks.take 1 }

def look (s : WatchedLink) (chunk : List UInt8) : WatchedLink :=
  match s.watch.look chunk s.transport.isOpen with
  | none => { s with stage := .closed }
  | some watch => { s with stage := .reading, watch }

inductive Step : WatchedLink → WatchedLink → Prop where
  | readsLink {s : WatchedLink} (hAlive : s.transport.worker.isAlive = true)
      (hDone : s.unhandled = []) (bytes : List UInt8) : Step s (s.readLink bytes)
  | handsOut {s : WatchedLink} {frame : Frame} {rest : List Frame}
      (hAlive : s.transport.worker.isAlive = true) (hNext : s.unhandled = frame :: rest) :
      Step s (s.handOut frame rest)
  | leaves {s : WatchedLink} (hAlive : s.transport.worker.isAlive = true)
      (hDone : s.unhandled = []) : Step s { s with transport := s.transport.hangUp }
  | takesChunk {s : WatchedLink} (hReading : s.stage = .reading) : Step s s.takeChunk
  | looks {s : WatchedLink} {chunk : List UInt8} (hLooking : s.stage = .looking chunk) :
      Step s (s.look chunk)
  | stops {s : WatchedLink} (hReading : s.stage = .reading) : Step s { s with stage := .stopped }

abbrev Leads : WatchedLink → WatchedLink → Prop := Relation.ReflTransGen Step

structure Sound (capacity : Nat) (s : WatchedLink) : Prop where
  linked : s.transport.holdsLink = true
  calls : ∃ channel, s.transport.calls = some channel
  logs : s.transport.logs.Accounts capacity s.pushed s.taken
  printed : s.watch.lines ++ s.stage.lines = s.taken.flatMap chunkLines

variable {capacity : Nat} {s t : WatchedLink}

theorem sound_start {transport opened : Transport} {conditions : OpenConditions}
    {actions : List LinkAction} (h : transport.openLink conditions = (.ok (), opened, actions)) :
    (start opened).Sound transport.settings.logCapacity := by
  have hOpens := transport.opens conditions
  rw [h] at hOpens
  cases hOpens with
  | opened hFree hStarts =>
    cases hStarts with
    | started hStop => exact ⟨rfl, ⟨_, rfl⟩, LogSink.accounts_new _, rfl⟩

theorem chunkLines_nil : chunkLines [] = [] := by decide +kernel

theorem Sound.handOut (h : s.Sound capacity) (frame : Frame) (rest : List Frame) :
    (s.handOut frame rest).Sound capacity := by
  obtain ⟨channel, hCalls⟩ := h.calls
  unfold WatchedLink.handOut
  rw [Transport.hand_eq hCalls]
  exact ⟨h.linked, ⟨_, rfl⟩, h.logs.handle frame, h.printed⟩

theorem Sound.leaves (h : s.Sound capacity) (hAlive : s.transport.worker.isAlive = true) :
    Sound capacity { s with transport := s.transport.hangUp } := by
  obtain ⟨channel, hCalls⟩ := h.calls
  rw [Transport.hangUp_of_calls hAlive hCalls]
  exact ⟨h.linked, ⟨_, rfl⟩, h.logs, h.printed⟩

theorem Sound.takeChunk_eq (h : s.Sound capacity) :
    s.takeChunk = { s with
      transport := { s.transport with logs := s.transport.logs.read.2 }
      stage := .looking s.transport.logs.read.1
      taken := s.taken ++ s.transport.logs.chunks.take 1 } := by
  rw [WatchedLink.takeChunk, Transport.readLog, if_pos h.linked]

theorem Sound.takeChunk (h : s.Sound capacity) (hReading : s.stage = .reading) :
    s.takeChunk.Sound capacity := by
  have hPrinted := h.printed
  rw [hReading] at hPrinted
  rw [h.takeChunk_eq]
  refine ⟨h.linked, h.calls, h.logs.read, ?_⟩
  dsimp only
  rw [List.flatMap_append, ← hPrinted]
  simp only [WatchStage.lines, List.append_nil]
  rcases s.transport.logs.read_cases with ⟨hQueue, hRead⟩ | ⟨chunk, rest, hQueue, hRead⟩
  · rw [hRead, hQueue, List.take_nil, List.flatMap_nil]
    exact congrArg _ chunkLines_nil
  · rw [hRead, hQueue]
    simp

theorem Sound.look (h : s.Sound capacity) {chunk : List UInt8}
    (hLooking : s.stage = .looking chunk) : (s.look chunk).Sound capacity := by
  have hPrinted := h.printed
  rw [hLooking] at hPrinted
  unfold WatchedLink.look LogWatch.look
  by_cases hEnds : (chunk.isEmpty && !s.transport.isOpen) = true
  · rw [if_pos hEnds]
    obtain rfl : chunk = [] := by simpa using (Bool.and_eq_true_iff.mp hEnds).1
    refine ⟨h.linked, h.calls, h.logs, ?_⟩
    rwa [WatchStage.lines, chunkLines_nil] at hPrinted
  · rw [if_neg hEnds]
    exact ⟨h.linked, h.calls, h.logs, by simpa [WatchStage.lines] using hPrinted⟩

theorem Sound.step (h : s.Sound capacity) (hStep : Step s t) : t.Sound capacity := by
  cases hStep with
  | readsLink hAlive hDone bytes => exact ⟨h.linked, h.calls, h.logs, h.printed⟩
  | handsOut hAlive hNext => exact h.handOut _ _
  | leaves hAlive hDone => exact h.leaves hAlive
  | takesChunk hReading => exact h.takeChunk hReading
  | looks hLooking => exact h.look hLooking
  | stops hReading =>
    have hPrinted := h.printed
    rw [hReading] at hPrinted
    exact ⟨h.linked, h.calls, h.logs, hPrinted⟩

theorem Sound.leads (h : s.Sound capacity) (hLeads : Leads s t) : t.Sound capacity := by
  induction hLeads with
  | refl => exact h
  | tail _ hStep ih => exact ih.step hStep

theorem Sound.grows (h : s.Sound capacity) (hStep : Step s t) :
    s.pushed <+: t.pushed ∧ s.transport.logs.dropped ≤ t.transport.logs.dropped := by
  obtain ⟨channel, hCalls⟩ := h.calls
  cases hStep with
  | readsLink hAlive hDone bytes => exact ⟨List.prefix_rfl, Nat.le_refl _⟩
  | @handsOut frame rest hAlive hNext =>
    unfold WatchedLink.handOut
    rw [Transport.hand_eq hCalls]
    exact ⟨List.prefix_append _ _, h.logs.dropped_le_handle frame⟩
  | leaves hAlive hDone =>
    rw [Transport.hangUp_of_calls hAlive hCalls]
    exact ⟨List.prefix_rfl, Nat.le_refl _⟩
  | takesChunk hReading =>
    rw [h.takeChunk_eq]
    refine ⟨List.prefix_rfl, Nat.le_of_eq ?_⟩
    rcases s.transport.logs.read_cases with ⟨-, hRead⟩ | ⟨chunk, rest, -, hRead⟩ <;>
      exact (congrArg (LogSink.dropped ∘ Prod.snd) hRead).symm
  | looks hLooking =>
    unfold WatchedLink.look
    split <;> exact ⟨List.prefix_rfl, Nat.le_refl _⟩
  | stops hReading => exact ⟨List.prefix_rfl, Nat.le_refl _⟩

theorem Sound.grows_leads (h : s.Sound capacity) (hLeads : Leads s t) :
    s.pushed <+: t.pushed ∧ s.transport.logs.dropped ≤ t.transport.logs.dropped := by
  induction hLeads with
  | refl => exact ⟨List.prefix_rfl, Nat.le_refl _⟩
  | tail hBefore hStep ih =>
    obtain ⟨hPushed, hDropped⟩ := (h.leads hBefore).grows hStep
    exact ⟨ih.1.trans hPushed, Nat.le_trans ih.2 hDropped⟩

/-- A run came through a read that found nothing, after which nothing was taken. If the worker had
left by then, nothing was pushed either. -/
structure EmptyRead (first mid s : WatchedLink) : Prop where
  before : Leads first mid
  reading : mid.stage = .reading
  nothing : mid.transport.logs.chunks = []
  after : Leads mid.takeChunk s
  taken : s.taken = mid.taken
  left : mid.transport.worker.isAlive = false →
    s.transport.worker.isAlive = false ∧ s.pushed = mid.pushed

variable {first mid : WatchedLink}

theorem EmptyRead.step (h : EmptyRead first mid s) (hStep : Step s t)
    (hStage : s.stage ≠ .reading) : EmptyRead first mid t := by
  refine ⟨h.before, h.reading, h.nothing, h.after.tail hStep, ?_, ?_⟩
  · cases hStep with
    | takesChunk hReading => exact absurd hReading hStage
    | looks hLooking =>
      unfold WatchedLink.look
      split <;> exact h.taken
    | _ => exact h.taken
  · intro hLeft
    obtain ⟨hGone, hPushed⟩ := h.left hLeft
    cases hStep with
    | readsLink hAlive hDone bytes => exact absurd hAlive (by simp [hGone])
    | handsOut hAlive hNext => exact absurd hAlive (by simp [hGone])
    | leaves hAlive hDone => exact absurd hAlive (by simp [hGone])
    | takesChunk hReading => exact absurd hReading hStage
    | looks hLooking =>
      unfold WatchedLink.look
      split <;> exact ⟨hGone, hPushed⟩
    | stops hReading => exact absurd hReading hStage

theorem Sound.emptyRead (h : s.Sound capacity) (hBefore : Leads first s)
    (hReading : s.stage = .reading) (hEmpty : s.takeChunk.stage = .looking []) :
    EmptyRead first s s.takeChunk := by
  have hTaken := h.takeChunk_eq
  rcases s.transport.logs.read_cases with ⟨hQueue, hRead⟩ | ⟨chunk, rest, hQueue, hRead⟩
  · refine ⟨hBefore, hReading, hQueue, .refl, ?_, fun hLeft => ?_⟩
    · rw [hTaken, hQueue, List.take_nil, List.append_nil]
    · rw [hTaken]
      exact ⟨hLeft, rfl⟩
  · rw [hTaken, hRead] at hEmpty
    have hChunk : chunk ≠ [] := h.logs.notEmpty chunk (by rw [hQueue]; exact List.mem_cons_self)
    exact absurd (WatchStage.looking.inj hEmpty) hChunk

/-- A watch that has nothing in hand or has ended for a closed link came through such a read. -/
theorem exists_emptyRead (hFirst : first.Sound capacity) (hStart : first.stage = .reading)
    (hLeads : Leads first s) (hStage : s.stage = .looking [] ∨ s.stage = .closed) :
    ∃ mid, EmptyRead first mid s := by
  induction hLeads with
  | refl => simp [hStart] at hStage
  | @tail b c hBefore hStep ih =>
    -- No step but a read touches the chunk in hand, so the empty read of before still counts.
    have hKeeps : (b.stage = .looking [] ∨ b.stage = .closed) → ∃ mid, EmptyRead first mid c := by
      intro hSame
      obtain ⟨mid, hRead⟩ := ih hSame
      exact ⟨mid, hRead.step hStep (by rcases hSame with hSame | hSame <;> simp [hSame])⟩
    cases hStep with
    | readsLink hAlive hDone bytes => exact hKeeps hStage
    | handsOut hAlive hNext => exact hKeeps hStage
    | leaves hAlive hDone => exact hKeeps hStage
    | takesChunk hReading =>
      have hEmpty : b.takeChunk.stage = .looking [] := hStage.resolve_right nofun
      exact ⟨b, (hFirst.leads hBefore).emptyRead hBefore hReading hEmpty⟩
    | @looks chunk hLooking =>
      apply hKeeps
      rw [hLooking]
      unfold WatchedLink.look LogWatch.look at hStage
      by_cases hEnds : (chunk.isEmpty && !b.transport.isOpen) = true
      · -- Only a look with nothing in hand ends the watch.
        have hNone : chunk = [] := by simpa using (Bool.and_eq_true_iff.mp hEnds).1
        exact .inl (by rw [hNone])
      · rw [if_neg hEnds] at hStage
        simp at hStage
    | stops hReading => simp at hStage

/-- Within the room of the sink nothing is discarded. A watch that ends because the link has closed
has then printed, in order and with their number in its message, the lines of every chunk that had
been pushed when its last read came back with nothing. What the worker pushed between that read and
the look at the link is still in the sink; there is none if the worker had left before the read. -/
theorem Leads.printed_until_last_read {transport opened : Transport} {conditions : OpenConditions}
    {actions : List LinkAction}
    (hOpened : transport.openLink conditions = (.ok (), opened, actions))
    (h : Leads (start opened) s) :
    (s.pushed.length ≤ max transport.settings.logCapacity 1 → s.transport.logs.dropped = 0) ∧
      (s.stage = .closed → s.transport.logs.dropped = 0 →
        ∃ mid, EmptyRead (start opened) mid s ∧ s.watch.lines = mid.pushed.flatMap chunkLines ∧
          s.pushed = mid.pushed ++ s.transport.logs.chunks ∧
          (mid.transport.worker.isAlive = false → s.transport.logs.chunks = []) ∧
          ∀ address, s.watch.closedMessage address =
            "device link " ++ address ++ " closed after " ++
              toString (min (mid.pushed.flatMap chunkLines).length LogWatch.maxCount) ++
              " lines") := by
  have hFirst := sound_start hOpened
  have hSound := hFirst.leads h
  refine ⟨hSound.logs.within, fun hClosed hDropped => ?_⟩
  obtain ⟨mid, hRead⟩ := exists_emptyRead hFirst rfl h (.inr hClosed)
  have hMid := hFirst.leads hRead.before
  -- Nothing that was dropped by the empty read comes back, so nothing was.
  have hKept : mid.transport.logs.dropped = 0 := by
    have hGrows := (hMid.grows_leads (.head (.takesChunk hRead.reading) hRead.after)).2
    rw [hDropped] at hGrows
    exact Nat.le_zero.mp hGrows
  have hTaken : s.taken = mid.pushed := by
    rw [hRead.taken, ← hMid.logs.order hKept, hRead.nothing, List.append_nil]
  have hPushed : s.pushed = mid.pushed ++ s.transport.logs.chunks := by
    rw [← hSound.logs.order hDropped, hTaken]
  have hLines : s.watch.lines = mid.pushed.flatMap chunkLines := by
    have hPrinted := hSound.printed
    rw [hClosed, WatchStage.lines, List.append_nil, hTaken] at hPrinted
    exact hPrinted
  refine ⟨mid, hRead, hLines, hPushed, ?_, fun address => ?_⟩
  · intro hLeft
    rw [(hRead.left hLeft).2] at hPushed
    exact List.self_eq_append_right.mp hPushed
  · rw [LogWatch.closedMessage, hLines]
    rfl

theorem Step.handsOut_of_calls {channel : CallChannel} {frame : Frame} {rest : List Frame}
    (hAlive : s.transport.worker.isAlive = true) (hCalls : s.transport.calls = some channel)
    (hNext : s.unhandled = frame :: rest) :
    Step s { s with
      transport := { s.transport with
        calls := some (channel.handleAll [frame])
        logs := s.transport.logs.handleAll [frame] }
      unhandled := rest
      pushed := s.pushed ++ LogSink.chunksOf [frame] } := by
  rw [← Transport.hand_eq hCalls]
  exact .handsOut hAlive hNext

theorem Step.leaves_of_calls {channel : CallChannel} (hAlive : s.transport.worker.isAlive = true)
    (hCalls : s.transport.calls = some channel) (hDone : s.unhandled = []) :
    Step s { s with transport := { s.transport with
      calls := some channel.close
      worker := s.transport.worker.threadEnds false } } := by
  rw [← Transport.hangUp_of_calls hAlive hCalls]
  exact .leaves hAlive hDone

theorem Leads.handOut_all {channel : CallChannel} {frames : List Frame}
    (hAlive : s.transport.worker.isAlive = true) (hCalls : s.transport.calls = some channel)
    (hNext : s.unhandled = frames) :
    Leads s { s with
      transport := { s.transport with
        calls := some (channel.handleAll frames)
        logs := s.transport.logs.handleAll frames }
      unhandled := []
      pushed := s.pushed ++ LogSink.chunksOf frames } := by
  induction frames generalizing s channel with
  | nil =>
    obtain ⟨⟨_, _, _, _, _, _, _, _, _⟩, _, _, _, _, _⟩ := s
    dsimp only at hCalls hNext
    rw [hCalls, hNext, LogSink.chunksOf, List.filter_nil, List.map_nil, List.append_nil]
    exact .refl
  | cons frame rest ih =>
    have hFirst := Step.handsOut_of_calls hAlive hCalls hNext
    have hRest := ih (s := { s with
      transport := { s.transport with
        calls := some (channel.handleAll [frame])
        logs := s.transport.logs.handleAll [frame] }
      unhandled := rest
      pushed := s.pushed ++ LogSink.chunksOf [frame] }) hAlive rfl rfl
    rw [List.append_assoc, ← LogSink.chunksOf_append, List.singleton_append,
      ← CallChannel.handleAll_cons, ← LogSink.handleAll_cons] at hRest
    exact hRest.head hFirst

theorem Leads.receive {channel : CallChannel} (hAlive : s.transport.worker.isAlive = true)
    (hCalls : s.transport.calls = some channel) (hDone : s.unhandled = []) (bytes : List UInt8) :
    Leads s { s with
      transport := s.transport.receive bytes
      unhandled := []
      pushed := s.pushed ++ LogSink.chunksOf (s.transport.decoder.feed bytes).2 } := by
  have hHands := @Leads.handOut_all (s.readLink bytes) channel _ hAlive hCalls rfl
  rw [Transport.receive_of_calls hAlive hCalls]
  exact hHands.head (.readsLink hAlive hDone bytes)

theorem Leads.watchLog (looks : Nat) (station : Station) (rig : Rig) {watch : LogWatch}
    (hTransport : s.transport = station.transport) (hWatch : s.watch = watch)
    (hReading : s.stage = .reading) :
    ∃ t, Leads s t ∧ t.transport = (Program.watchLog watch looks station rig).2.1.transport ∧
      t.watch = (Program.watchLog watch looks station rig).1.1 ∧
      t.stage = bif (Program.watchLog watch looks station rig).1.2 then .closed else .reading := by
  induction looks generalizing s station rig watch with
  | zero => exact ⟨s, .refl, hTransport, hWatch, hReading⟩
  | succ looks ih =>
    subst hWatch
    have hTakes : Step s s.takeChunk := .takesChunk hReading
    have hLooks : Step s.takeChunk (s.takeChunk.look s.transport.readLog.1) := .looks rfl
    have hTaken : s.takeChunk.transport = station.transport.readLog.2 := by
      rw [← hTransport]
      rfl
    unfold look at hLooks
    rw [hTaken, hTransport] at hLooks
    unfold Program.watchLog Station.readLog Station.isOpen
    dsimp only
    cases hLook : s.watch.look station.transport.readLog.1 station.transport.readLog.2.isOpen with
    | none =>
      rw [show s.takeChunk.watch = s.watch from rfl, hLook] at hLooks
      exact ⟨_, (Relation.ReflTransGen.single hTakes).tail hLooks, rfl, rfl, rfl⟩
    | some watch =>
      rw [show s.takeChunk.watch = s.watch from rfl, hLook] at hLooks
      obtain ⟨t, hLeads, hEnds⟩ := ih { station with transport := station.transport.readLog.2 } rig
        (s := { s.takeChunk with
          transport := station.transport.readLog.2, stage := .reading, watch }) rfl rfl rfl
      exact ⟨t, (hLeads.head hLooks).head hTakes, hEnds⟩

theorem Leads.hear_last {settings : TransportSettings} {channel : CallChannel}
    (hServes : s.transport.Serves settings channel)
    (hDecoder : s.transport.decoder = .new settings.worker.maxPayload) (hDone : s.unhandled = [])
    {payload : List UInt8} (hFits : payload.length ≤ settings.worker.maxPayload) :
    ∃ calls decoder, Leads s { s with
      transport := { s.transport with
        calls
        decoder
        logs := s.transport.logs.push (LogSink.chunkOf payload)
        worker := s.transport.worker.threadEnds false }
      unhandled := []
      pushed := s.pushed ++ [LogSink.chunkOf payload] } := by
  have hAlive : s.transport.worker.isAlive = true := (Bool.and_eq_true_iff.mp hServes.isOpen).2
  have hFrames := ((Frame.Decoder.carries_new settings.worker.maxPayload).send Frame.logAddress
    payload).frames
  rw [List.nil_append, List.nil_append, Frame.accepted_of_le _ hFits, ← hDecoder] at hFrames
  have hHears := Leads.receive hAlive hServes.calls hDone (Frame.encode Frame.logAddress payload)
  rw [Transport.receive_of_calls hAlive hServes.calls, hFrames] at hHears
  exact ⟨_, _, hHears.tail (.leaves_of_calls hAlive rfl rfl)⟩

def opened : Transport :=
  ((Transport.new (.socket "device") .usual .all).openLink Transport.favourable).2.1

theorem chunkLines_hi : chunkLines [104, 105, 10] = ["hi"] := by decide +kernel

/-- The device says its last and hangs up while the watch waits for a chunk. -/
theorem last_printed :
    ∃ s mid : WatchedLink, Leads (start opened) s ∧ s.stage = .closed ∧
      s.pushed = [[104, 105, 10]] ∧ s.watch.lines = mid.pushed.flatMap chunkLines ∧
      s.transport.logs.chunks = [] ∧ s.watch.lines = ["hi"] := by
  obtain ⟨hServes, hDecoder⟩ :=
    Transport.serves_of_openLink (Transport.openLink_favourable (.socket "device"))
  obtain ⟨calls, decoder, hHeard⟩ := @Leads.hear_last (start opened) _ _ hServes hDecoder rfl
    [104, 105] (by decide)
  have hTaken := hHeard.tail (.takesChunk rfl)
  have hPrinted := hTaken.tail (@Step.looks _ [104, 105, 10] rfl)
  have hEmpty := hPrinted.tail (.takesChunk rfl)
  have hClosed := hEmpty.tail (@Step.looks _ [] rfl)
  obtain ⟨mid, -, hLines, -, -, -⟩ :=
    (Leads.printed_until_last_read (Transport.openLink_favourable _) hClosed).2 rfl rfl
  exact ⟨_, mid, hClosed, rfl, rfl, hLines, rfl, chunkLines_hi⟩

/-- The device says its last and hangs up after the last read of the watch has come back with
nothing and before the watch looks at the link. -/
theorem last_not_printed :
    ∃ s, Leads (start opened) s ∧ s.stage = .closed ∧ s.pushed = [[104, 105, 10]] ∧
      s.pushed.length ≤ opened.settings.logCapacity ∧ s.transport.logs.dropped = 0 ∧
      s.watch.lines = [] ∧ s.pushed.flatMap chunkLines = ["hi"] := by
  obtain ⟨hServes, hDecoder⟩ :=
    Transport.serves_of_openLink (Transport.openLink_favourable (.socket "device"))
  have hEmpty : Leads (start opened) _ := .single (.takesChunk rfl)
  obtain ⟨calls, decoder, hHeard⟩ := @Leads.hear_last (start opened).takeChunk _ _ hServes hDecoder
    rfl [104, 105] (by decide)
  have hClosed := (hEmpty.trans hHeard).tail (@Step.looks _ [] rfl)
  exact ⟨_, hClosed, rfl, rfl, show 1 ≤ 1024 by decide, rfl, rfl,
    congrArg (· ++ []) chunkLines_hi⟩

end WatchedLink

end DeviceRig
