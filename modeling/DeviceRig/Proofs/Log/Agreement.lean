import DeviceRig.Proofs.Log.Watching
import DeviceRig.Proofs.Text.Lines

/-!
# The log as a task and as a command show it

A task gathers the chunks of the log and reads them as one text; a command
reads each chunk on its own and prints its lines. The line feed at the end of
every chunk makes that the same: no sequence of bytes and no line goes from one
chunk to the next.
-/
namespace DeviceRig

namespace LogSink

theorem lines_lossy_chunks (payloads : List (List UInt8)) :
    Text.lines (Utf8.lossy (payloads.map chunkOf).flatten) =
      (payloads.map chunkOf).flatMap chunkLines := by
  induction payloads with
  | nil =>
    rw [List.map_nil, List.flatten_nil, List.flatMap_nil]
    exact WatchedLink.chunkLines_nil
  | cons payload payloads ih =>
    rw [List.map_cons, List.flatten_cons, List.flatMap_cons, ← ih, chunkOf, List.append_assoc,
      List.singleton_append, Text.lines_lossy_append]
    rfl

theorem lines_lossy_chunksOf (frames : List Frame) :
    Text.lines (Utf8.lossy (chunksOf frames).flatten) = (chunksOf frames).flatMap chunkLines := by
  have hChunks := lines_lossy_chunks ((frames.filter fun frame =>
    frame.valid && frame.address = Frame.logAddress).map Frame.payload)
  rwa [List.map_map] at hChunks

theorem ne_nil_of_mem_chunksOf (frames : List Frame) : ∀ chunk ∈ chunksOf frames, chunk ≠ [] := by
  intro chunk hChunk
  obtain ⟨frame, -, rfl⟩ := List.mem_map.mp hChunk
  simp [chunkOf]

variable {capacity : Nat} {sink : LogSink} {pushed taken : List (List UInt8)}

theorem Accounts.handleAll (h : Accounts capacity sink pushed taken) (frames : List Frame) :
    Accounts capacity (sink.handleAll frames) (pushed ++ chunksOf frames) taken := by
  induction frames generalizing sink pushed with
  | nil => simpa [LogSink.handleAll, chunksOf] using h
  | cons frame frames ih =>
    have hRest := ih (h.handle frame)
    rwa [List.append_assoc, ← chunksOf_append, ← handleAll_cons] at hRest

theorem chunks_handleAll_new {frames : List Frame}
    (hRoom : (chunksOf frames).length ≤ max capacity 1) :
    ((new capacity).handleAll frames).chunks = chunksOf frames := by
  have hAccounts := (accounts_new capacity).handleAll frames
  exact hAccounts.order (hAccounts.within hRoom)

end LogSink

/-- A task that gathers the text of the log, and the sink that the worker fills meanwhile. -/
structure LogGathering where
  sink : LogSink
  text : List UInt8
  frames : List Frame
  taken : List (List UInt8)

namespace LogGathering

def start (capacity : Nat) : LogGathering := ⟨.new capacity, [], [], []⟩

def handOut (g : LogGathering) (frame : Frame) : LogGathering :=
  { g with sink := g.sink.handleAll [frame], frames := g.frames ++ [frame] }

/-- The task appends the next chunk, or nothing if none came in time. -/
def read (g : LogGathering) : LogGathering :=
  { g with
    sink := g.sink.read.2
    text := g.text ++ g.sink.read.1
    taken := g.taken ++ g.sink.chunks.take 1 }

inductive Step : LogGathering → LogGathering → Prop where
  | handsOut {g : LogGathering} (frame : Frame) : Step g (g.handOut frame)
  | reads {g : LogGathering} : Step g g.read

abbrev Leads : LogGathering → LogGathering → Prop := Relation.ReflTransGen Step

structure Sound (capacity : Nat) (g : LogGathering) : Prop where
  logs : g.sink.Accounts capacity (LogSink.chunksOf g.frames) g.taken
  gathered : g.text = g.taken.flatten

variable {capacity : Nat} {g next : LogGathering}

theorem sound_start (capacity : Nat) : (start capacity).Sound capacity :=
  ⟨LogSink.accounts_new capacity, rfl⟩

theorem Sound.step (h : g.Sound capacity) (hStep : Step g next) : next.Sound capacity := by
  cases hStep with
  | handsOut frame =>
    refine ⟨?_, h.gathered⟩
    rw [handOut, LogSink.chunksOf_append]
    exact h.logs.handle frame
  | reads =>
    refine ⟨h.logs.read, ?_⟩
    simp only [read]
    rw [h.gathered, List.flatten_append]
    rcases g.sink.read_cases with ⟨hQueue, hRead⟩ | ⟨chunk, rest, hQueue, hRead⟩ <;>
      simp [hQueue, hRead]

theorem Sound.leads (h : g.Sound capacity) (hLeads : Leads g next) : next.Sound capacity := by
  induction hLeads with
  | refl => exact h
  | tail _ hStep ih => exact ih.step hStep

/-- If nothing was discarded, a task that has read everything has all chunks in a row. -/
theorem Sound.text_eq (h : g.Sound capacity) (hKept : g.sink.dropped = 0)
    (hRead : g.sink.chunks = []) : g.text = (LogSink.chunksOf g.frames).flatten := by
  rw [h.gathered, ← h.logs.order hKept, hRead, List.append_nil]

end LogGathering

/-- If nothing was discarded, a watch that has read everything and printed what it read has printed
the lines of all chunks. -/
theorem WatchedLink.Sound.lines_eq {capacity : Nat} {s : WatchedLink} (h : s.Sound capacity)
    (hKept : s.transport.logs.dropped = 0) (hRead : s.transport.logs.chunks = [])
    (hPrinted : s.stage.lines = []) : s.watch.lines = s.pushed.flatMap chunkLines := by
  have hLines := h.printed
  rw [hPrinted, List.append_nil] at hLines
  rw [hLines, ← h.logs.order hKept, hRead, List.append_nil]

namespace Transport

theorem readLog_of_chunks {transport : Transport} {chunk : List UInt8} {rest : List (List UInt8)}
    (hLinked : transport.holdsLink = true) (hQueue : transport.logs.chunks = chunk :: rest) :
    transport.readLog =
      (chunk, { transport with logs := { transport.logs with chunks := rest } }) := by
  rw [readLog, if_pos hLinked, LogSink.read, LogSink.tryTake, hQueue]

theorem readLog_of_empty {transport : Transport} (hQueue : transport.logs.chunks = []) :
    transport.readLog = ([], transport) := by
  unfold readLog
  split
  · rw [LogSink.read, LogSink.tryTake, hQueue]
  · rfl

end Transport

theorem Transport.foldl_readLog {transport : Transport} (hLinked : transport.holdsLink = true)
    (text : List UInt8) (turns : List Nat) (hTurns : turns.length = transport.logs.chunks.length) :
    (turns.foldl (fun found _ => (found.1 ++ found.2.readLog.1, found.2.readLog.2))
      (text, transport)).1 = text ++ transport.logs.chunks.flatten := by
  induction turns generalizing transport text with
  | nil =>
    rw [List.eq_nil_of_length_eq_zero hTurns.symm, List.flatten_nil, List.append_nil]
    rfl
  | cons turn turns ih =>
    obtain ⟨chunk, rest, hQueue⟩ := List.exists_cons_of_length_eq_add_one hTurns.symm
    rw [hQueue, List.length_cons, List.length_cons, Nat.add_right_cancel_iff] at hTurns
    rw [List.foldl_cons, readLog_of_chunks hLinked hQueue, hQueue, List.flatten_cons,
      ← List.append_assoc]
    exact @ih { transport with logs := { transport.logs with chunks := rest } } hLinked _ hTurns

theorem Task.drainLog_text {station : Station} (hLinked : station.transport.holdsLink = true)
    (rig : Rig) : (Task.drainLog station rig).1 = station.transport.logs.chunks.flatten :=
  Transport.foldl_readLog hLinked [] _ List.length_range

/-- A command that looks once more than there are chunks prints the lines of all of them. -/
theorem Program.lines_watchLog {chunks : List (List UInt8)} {station : Station}
    (hLinked : station.transport.holdsLink = true) (hQueue : station.transport.logs.chunks = chunks)
    (hSome : ∀ chunk ∈ chunks, chunk ≠ []) (watch : LogWatch) (rig : Rig) :
    (Program.watchLog watch (chunks.length + 1) station rig).1.1.lines =
      watch.lines ++ chunks.flatMap chunkLines := by
  induction chunks generalizing station watch with
  | nil =>
    simp only [List.length_nil, Program.watchLog, Station.readLog,
      Transport.readLog_of_empty hQueue, LogWatch.look]
    by_cases hOpen : station.isOpen = true
    · simp [hOpen, WatchedLink.chunkLines_nil]
    · simp [hOpen]
  | cons chunk rest ih =>
    obtain ⟨hChunk, hRest⟩ := List.forall_mem_cons.mp hSome
    let after : Station := { station with transport :=
      { station.transport with logs := { station.transport.logs with chunks := rest } } }
    have hAfter := @ih after hLinked rfl hRest ⟨watch.lines ++ chunkLines chunk⟩
    rw [List.length_cons, Program.watchLog]
    simp only [Station.readLog, Transport.readLog_of_chunks hLinked hQueue, LogWatch.look]
    rw [if_neg (by simp [hChunk]), List.flatMap_cons, ← List.append_assoc]
    exact hAfter

namespace LogSink

/-- The lines that a task returns, which reads all chunks as one text, are those that a command
prints, which reads each chunk on its own. So it is when all frames have been handed out to a sink
with room for their chunks, and also when each reads while the worker hands them out, as long as
the sink has discarded nothing, which it does not within its room. -/
theorem same_lines_gathered_and_watched (capacity : Nat) (frames : List Frame) :
    let lines := (chunksOf frames).flatMap chunkLines
    (∀ station rig, (chunksOf frames).length ≤ max capacity 1 →
      station.transport.holdsLink = true →
      station.transport.logs = (new capacity).handleAll frames →
        (Task.drainLog station rig).1 = (chunksOf frames).flatten ∧
        Task.linesValue (Task.drainLog station rig).1 = .list (lines.map .text) ∧
        (Program.watchLog .start (station.transport.logs.size + 1) station rig).1.1.lines = lines) ∧
      (∀ g, LogGathering.Leads (.start capacity) g → g.frames = frames →
        ((chunksOf frames).length ≤ max capacity 1 → g.sink.dropped = 0) ∧
        (g.sink.dropped = 0 → g.sink.chunks = [] →
          g.text = (chunksOf frames).flatten ∧
          Task.linesValue g.text = .list (lines.map .text))) ∧
      ∀ (transport opened : Transport) conditions actions s,
        transport.openLink conditions = (.ok (), opened, actions) →
        transport.settings.logCapacity = capacity → WatchedLink.Leads (.start opened) s →
        s.pushed = chunksOf frames →
          ((chunksOf frames).length ≤ max capacity 1 → s.transport.logs.dropped = 0) ∧
          (s.transport.logs.dropped = 0 → s.transport.logs.chunks = [] → s.stage.lines = [] →
            s.watch.lines = lines) := by
  intro lines
  have hLines : Task.linesValue (chunksOf frames).flatten = .list (lines.map .text) := by
    rw [Task.linesValue, lines_lossy_chunksOf]
  refine ⟨?_, ?_, ?_⟩
  · intro station rig hRoom hLinked hLogs
    have hQueue : station.transport.logs.chunks = chunksOf frames := by
      rw [hLogs, chunks_handleAll_new hRoom]
    have hText : (Task.drainLog station rig).1 = (chunksOf frames).flatten := by
      rw [Task.drainLog_text hLinked, hQueue]
    rw [hText, size, hQueue]
    exact ⟨rfl, hLines, Program.lines_watchLog hLinked hQueue (ne_nil_of_mem_chunksOf frames) _ rig⟩
  · intro g hLeads hFrames
    have hSound := (LogGathering.sound_start capacity).leads hLeads
    subst hFrames
    refine ⟨hSound.logs.within, fun hKept hRead => ?_⟩
    rw [hSound.text_eq hKept hRead]
    exact ⟨rfl, hLines⟩
  · intro transport opened conditions actions s hOpened hCapacity hLeads hPushed
    have hSound := (WatchedLink.sound_start hOpened).leads hLeads
    subst hCapacity
    refine ⟨fun hRoom => hSound.logs.within (hPushed ▸ hRoom), fun hKept hRead hPrinted => ?_⟩
    rw [hSound.lines_eq hKept hRead hPrinted, hPushed]

/-- A character that is cut at the end of a chunk, one that begins inside, a carriage return before
the end, nothing at all, and a line feed inside. -/
theorem same_lines_gathered_and_watched_broken :
    let frames : List Frame := [[0xE2, 0x82], [0xAC, 13], [], [97, 10, 98]].map fun payload =>
      ⟨Frame.logAddress, payload, true⟩
    let station : Station :=
      ⟨{ WatchedLink.opened with logs := (new 4).handleAll frames }, none, 0⟩
    let rig := Rig.new default
    let lines := ["\uFFFD", "\uFFFD", "", "a", "b"]
    Task.linesValue (Task.drainLog station rig).1 = .list (lines.map .text) ∧
      (Program.watchLog .start (station.transport.logs.size + 1) station rig).1.1.lines =
        lines := by
  intro frames station rig lines
  have hLines : (chunksOf frames).flatMap chunkLines = lines := by decide +kernel
  obtain ⟨hBoth, -, -⟩ := same_lines_gathered_and_watched 4 frames
  rw [hLines] at hBoth
  exact (hBoth station rig (by decide) rfl rfl).2

end LogSink

end DeviceRig
