import DeviceRig.Log.Sink
import Mathlib.Logic.Function.Iterate
import Mathlib.Logic.Relation

/-!
# A log sink that is shared

One thread pushes chunks while any number of callers read from the sink or
clear it. Each step is one operation on the queue, done without interruption.
A push that finds the sink full takes a chunk out, counts it and offers its own
chunk again; between these steps callers may empty the queue that was full.
-/
namespace DeviceRig

namespace LogSink

theorem trySend_eq_some {sink after : LogSink} {chunk : List UInt8} :
    sink.trySend chunk = some after ↔ sink.isFull = false ∧ after = sink.append chunk := by
  unfold trySend
  cases sink.isFull <;> simp [eq_comm]

theorem trySend_eq_none {sink : LogSink} {chunk : List UInt8} :
    sink.trySend chunk = none ↔ sink.isFull = true := by
  unfold trySend
  cases sink.isFull <;> simp

theorem isFull_eq_false {sink : LogSink} :
    sink.isFull = false ↔ sink.chunks.length < sink.capacity :=
  decide_eq_false_iff_not.trans Nat.not_le

theorem tryTake_eq_some {sink rest : LogSink} {chunk : List UInt8} :
    sink.tryTake = some (chunk, rest) ↔
      sink.chunks = chunk :: rest.chunks ∧ rest = { sink with chunks := rest.chunks } := by
  obtain ⟨capacity, chunks, dropped⟩ := sink
  cases chunks with
  | nil => simp [tryTake]
  | cons oldest others =>
    simp only [tryTake, Option.some.injEq, Prod.mk.injEq, List.cons.injEq]
    constructor
    · rintro ⟨rfl, rfl⟩
      exact ⟨⟨rfl, rfl⟩, rfl⟩
    · rintro ⟨⟨rfl, rfl⟩, hRest⟩
      exact ⟨rfl, hRest.symm⟩

def countDropped (sink : LogSink) : LogSink :=
  { sink with dropped := sink.dropped + 1 }

theorem push_of_room {sink : LogSink} (hRoom : sink.isFull = false) (chunk : List UInt8) :
    sink.push chunk = sink.append chunk := by
  rw [push, trySend_eq_some.mpr ⟨hRoom, rfl⟩]

theorem push_of_full {sink rest : LogSink} {oldest : List UInt8} (hFull : sink.isFull = true)
    (hTake : sink.tryTake = some (oldest, rest)) (chunk : List UInt8) :
    sink.push chunk = rest.countDropped.append chunk := by
  have hDropped : rest.dropped = sink.dropped := by rw [(tryTake_eq_some.mp hTake).2]
  rw [push, trySend_eq_none.mpr hFull, discard, hTake, countDropped, hDropped]

end LogSink

inductive PushStage where
  | idle
  | offering (chunk : List UInt8)
  | evicting (chunk : List UInt8)
  | counting (chunk : List UInt8)

namespace PushStage

def chunk? : PushStage → Option (List UInt8)
  | .idle => none
  | .offering chunk | .evicting chunk | .counting chunk => some chunk

def uncounted : PushStage → Nat
  | .counting _ => 1
  | .idle | .offering _ | .evicting _ => 0

end PushStage

inductive SinkCaller where
  | reading
  | clearing
  | ended

inductive SinkTaker where
  | push
  | read
  | clear
deriving DecidableEq

/-- A sink in use: where its pusher and its callers stand, the chunks of all pushes that have begun,
those that pushes have queued and those that were taken out, each in order. -/
structure SharedSink where
  sink : LogSink
  pusher : PushStage
  callers : List SinkCaller
  pushed : List (List UInt8)
  queued : List (List UInt8)
  taken : List (SinkTaker × List UInt8)

namespace SharedSink

def start (capacity : Nat) : SharedSink := ⟨.new capacity, .idle, [], [], [], []⟩

def beginPush (s : SharedSink) (chunk : List UInt8) : SharedSink :=
  { s with pusher := .offering chunk, pushed := s.pushed ++ [chunk] }

def addCaller (s : SharedSink) (caller : SinkCaller) : SharedSink :=
  { s with callers := s.callers ++ [caller] }

def endCaller (s : SharedSink) (n : Nat) : SharedSink :=
  { s with callers := s.callers.set n .ended }

def take (s : SharedSink) (taker : SinkTaker) (chunk : List UInt8) (rest : LogSink) : SharedSink :=
  { s with sink := rest, taken := s.taken ++ [(taker, chunk)] }

def takenBy (s : SharedSink) (taker : SinkTaker) : Nat :=
  s.taken.countP fun entry => entry.1 = taker

def pushOn (s : SharedSink) : SharedSink :=
  match s.pusher with
  | .idle => s
  | .offering chunk =>
    match s.sink.trySend chunk with
    | some after => { s with sink := after, pusher := .idle, queued := s.queued ++ [chunk] }
    | none => { s with pusher := .evicting chunk }
  | .evicting chunk =>
    match s.sink.tryTake with
    | some (oldest, rest) => { s.take .push oldest rest with pusher := .counting chunk }
    | none => { s with pusher := .offering chunk }
  | .counting chunk => { s with sink := s.sink.countDropped, pusher := .offering chunk }

inductive Step : SharedSink → SharedSink → Prop where
  | beginPush {s : SharedSink} (chunk : List UInt8) (hIdle : s.pusher = .idle) :
      Step s (s.beginPush chunk)
  | pushOn {s : SharedSink} (hBusy : s.pusher ≠ .idle) : Step s s.pushOn
  | beginRead {s : SharedSink} : Step s (s.addCaller .reading)
  | receive {s : SharedSink} {n : Nat} {chunk : List UInt8} {rest : LogSink}
      (hCaller : s.callers[n]? = some .reading) (hTake : s.sink.tryTake = some (chunk, rest)) :
      Step s ((s.take .read chunk rest).endCaller n)
  | expire {s : SharedSink} {n : Nat} (hCaller : s.callers[n]? = some .reading)
      (hEmpty : s.sink.tryTake = none) : Step s (s.endCaller n)
  | beginClear {s : SharedSink} : Step s (s.addCaller .clearing)
  | clearOne {s : SharedSink} {n : Nat} {chunk : List UInt8} {rest : LogSink}
      (hCaller : s.callers[n]? = some .clearing) (hTake : s.sink.tryTake = some (chunk, rest)) :
      Step s (s.take .clear chunk rest)
  | endClear {s : SharedSink} {n : Nat} (hCaller : s.callers[n]? = some .clearing)
      (hEmpty : s.sink.tryTake = none) : Step s (s.endCaller n)

abbrev Leads : SharedSink → SharedSink → Prop := Relation.ReflTransGen Step

/-- What every step keeps: no chunk is lost or doubled, and those that a push took out are counted
except for one that it is about to count. -/
structure Kept (capacity : Nat) (s : SharedSink) : Prop where
  room : s.sink.capacity = max capacity 1
  order : s.taken.map Prod.snd ++ s.sink.chunks = s.queued
  waiting : s.queued ++ s.pusher.chunk?.toList = s.pushed
  bound : s.sink.chunks.length ≤ max capacity 1
  counted : s.sink.dropped + s.pusher.uncounted = s.takenBy .push

theorem kept_start (capacity : Nat) : Kept capacity (start capacity) where
  room := rfl
  order := rfl
  waiting := rfl
  bound := Nat.zero_le _
  counted := rfl

variable {capacity : Nat} {s : SharedSink}

theorem takenBy_take (s : SharedSink) (taker other : SinkTaker) (chunk : List UInt8)
    (rest : LogSink) :
    (s.take taker chunk rest).takenBy other =
      s.takenBy other + if taker = other then 1 else 0 := by
  by_cases hTaker : taker = other <;> simp [takenBy, take, List.countP_append, hTaker]

theorem Kept.takenBy_le (h : Kept capacity s) (taker : SinkTaker) :
    s.takenBy taker ≤ s.pushed.length := by
  have hTaken : s.takenBy taker ≤ (s.taken.map Prod.snd).length := by
    rw [List.length_map]
    exact List.countP_le_length
  rw [← h.waiting, ← h.order, List.length_append, List.length_append]
  omega

theorem Kept.take (h : Kept capacity s) {chunk : List UInt8} {rest : LogSink}
    (hTake : s.sink.tryTake = some (chunk, rest)) (taker : SinkTaker) :
    rest.capacity = max capacity 1 ∧
      (s.take taker chunk rest).taken.map Prod.snd ++ rest.chunks = s.queued ∧
      rest.chunks.length ≤ max capacity 1 ∧ rest.dropped = s.sink.dropped := by
  obtain ⟨hChunks, hRest⟩ := LogSink.tryTake_eq_some.mp hTake
  have hBound := h.bound
  rw [hChunks, List.length_cons] at hBound
  refine ⟨by rw [hRest, h.room], ?_, by omega, by rw [hRest]⟩
  rw [← h.order, hChunks, SharedSink.take, List.map_append, List.append_assoc]
  rfl

theorem Kept.takeAway (h : Kept capacity s) {chunk : List UInt8} {rest : LogSink}
    (hTake : s.sink.tryTake = some (chunk, rest)) {taker : SinkTaker} (hTaker : taker ≠ .push) :
    Kept capacity (s.take taker chunk rest) := by
  obtain ⟨hRoom, hOrder, hBound, hDropped⟩ := h.take hTake taker
  refine ⟨hRoom, hOrder, h.waiting, hBound, ?_⟩
  rw [takenBy_take, if_neg hTaker, Nat.add_zero, ← h.counted]
  exact congrArg (· + s.pusher.uncounted) hDropped

theorem Kept.endCaller (h : Kept capacity s) (n : Nat) : Kept capacity (s.endCaller n) :=
  ⟨h.room, h.order, h.waiting, h.bound, h.counted⟩

theorem Kept.addCaller (h : Kept capacity s) (caller : SinkCaller) :
    Kept capacity (s.addCaller caller) :=
  ⟨h.room, h.order, h.waiting, h.bound, h.counted⟩

theorem Kept.beginPush (h : Kept capacity s) (hIdle : s.pusher = .idle) (chunk : List UInt8) :
    Kept capacity (s.beginPush chunk) := by
  obtain ⟨hRoom, hOrder, hWaiting, hBound, hCounted⟩ := h
  rw [hIdle] at hWaiting hCounted
  refine ⟨hRoom, hOrder, ?_, hBound, hCounted⟩
  rw [SharedSink.beginPush, ← hWaiting]
  simp [PushStage.chunk?]

theorem Kept.pushOn (h : Kept capacity s) : Kept capacity s.pushOn := by
  obtain ⟨hRoom, hOrder, hWaiting, hBound, hCounted⟩ := id h
  unfold SharedSink.pushOn
  cases hStage : s.pusher with
  | idle => exact h
  | offering chunk =>
    rw [hStage] at hWaiting hCounted
    dsimp only
    cases hSend : s.sink.trySend chunk with
    | none => exact ⟨hRoom, hOrder, hWaiting, hBound, hCounted⟩
    | some after =>
      obtain ⟨hSpace, rfl⟩ := LogSink.trySend_eq_some.mp hSend
      have hLess := LogSink.isFull_eq_false.mp hSpace
      refine ⟨hRoom, ?_, ?_, ?_, hCounted⟩
      · rw [← hOrder, List.append_assoc]
        rfl
      · rw [← hWaiting]
        exact List.append_nil _
      · rw [LogSink.append, List.length_append, List.length_singleton, ← hRoom]
        exact hLess
  | evicting chunk =>
    rw [hStage] at hWaiting hCounted
    dsimp only
    cases hTake : s.sink.tryTake with
    | none =>
      -- Callers have emptied the queue since the push found it full.
      exact ⟨hRoom, hOrder, hWaiting, hBound, hCounted⟩
    | some taken =>
      obtain ⟨oldest, rest⟩ := taken
      obtain ⟨hRestRoom, hRestOrder, hRestBound, hDropped⟩ := h.take hTake .push
      refine ⟨hRestRoom, hRestOrder, hWaiting, hRestBound, ?_⟩
      have hTaken := takenBy_take s .push .push oldest rest
      rw [if_pos rfl, ← hCounted] at hTaken
      exact (congrArg (· + 1) hDropped).trans hTaken.symm
  | counting chunk =>
    rw [hStage] at hWaiting hCounted
    exact ⟨hRoom, hOrder, hWaiting, hBound, hCounted⟩

theorem Kept.step {t : SharedSink} (h : Kept capacity s) (hStep : Step s t) : Kept capacity t := by
  cases hStep with
  | beginPush chunk hIdle => exact h.beginPush hIdle chunk
  | pushOn hBusy => exact h.pushOn
  | beginRead => exact h.addCaller .reading
  | receive hCaller hTake => exact (h.takeAway hTake (by decide)).endCaller _
  | expire hCaller hEmpty => exact h.endCaller _
  | beginClear => exact h.addCaller .clearing
  | clearOne hCaller hTake => exact h.takeAway hTake (by decide)
  | endClear hCaller hEmpty => exact h.endCaller _

theorem Kept.leads {t : SharedSink} (h : Kept capacity s) (hLeads : Leads s t) :
    Kept capacity t := by
  induction hLeads with
  | refl => exact h
  | tail _ hStep ih => exact ih.step hStep

theorem Kept.exists_tryTake (h : Kept capacity s) (hFull : s.sink.isFull = true) :
    ∃ oldest rest, s.sink.tryTake = some (oldest, rest) := by
  have hSize : s.sink.capacity ≤ s.sink.chunks.length := of_decide_eq_true hFull
  rw [h.room] at hSize
  unfold LogSink.tryTake
  cases hChunks : s.sink.chunks with
  | nil =>
    rw [hChunks, List.length_nil] at hSize
    omega
  | cons oldest rest => exact ⟨oldest, _, rfl⟩

variable {chunk : List UInt8}

theorem pushOn_of_room (hStage : s.pusher = .offering chunk) (hRoom : s.sink.isFull = false) :
    s.pushOn =
      { s with
        sink := s.sink.append chunk
        pusher := .idle
        queued := s.queued ++ [chunk] } := by
  rw [pushOn, hStage]
  dsimp only
  rw [LogSink.trySend_eq_some.mpr ⟨hRoom, rfl⟩]

theorem pushOn_of_full (hStage : s.pusher = .offering chunk) (hFull : s.sink.isFull = true) :
    s.pushOn = { s with pusher := .evicting chunk } := by
  rw [pushOn, hStage]
  dsimp only
  rw [LogSink.trySend_eq_none.mpr hFull]

theorem pushOn_evicting {oldest : List UInt8} {rest : LogSink} (hStage : s.pusher = .evicting chunk)
    (hTake : s.sink.tryTake = some (oldest, rest)) :
    s.pushOn = { s.take .push oldest rest with pusher := .counting chunk } := by
  rw [pushOn, hStage]
  dsimp only
  rw [hTake]

theorem pushOn_counting (hStage : s.pusher = .counting chunk) :
    s.pushOn = { s with sink := s.sink.countDropped, pusher := .offering chunk } := by
  rw [pushOn, hStage]

theorem pushOn_idle (hStage : s.pusher = .idle) : s.pushOn = s := by
  rw [pushOn, hStage]

-- With room one operation is enough, and the three behind it find the pushing thread idle.
theorem pushAlone_of_room (hRoom : s.sink.isFull = false) (chunk : List UInt8) :
    pushOn^[4] (s.beginPush chunk) =
      { s with
        sink := s.sink.push chunk
        pusher := .idle
        pushed := s.pushed ++ [chunk]
        queued := s.queued ++ [chunk] } := by
  have hFirst : (s.beginPush chunk).pushOn = _ := pushOn_of_room rfl hRoom
  rw [Function.iterate_succ_apply, hFirst, LogSink.push_of_room hRoom]
  exact Function.iterate_fixed (pushOn_idle rfl) 3

theorem Kept.pushAlone_of_full (h : Kept capacity s) (hFull : s.sink.isFull = true)
    {oldest : List UInt8} {rest : LogSink} (hTake : s.sink.tryTake = some (oldest, rest))
    (chunk : List UInt8) :
    SharedSink.pushOn^[4] (s.beginPush chunk) =
      { s with
        sink := s.sink.push chunk
        pusher := .idle
        pushed := s.pushed ++ [chunk]
        queued := s.queued ++ [chunk]
        taken := s.taken ++ [(.push, oldest)] } := by
  obtain ⟨hChunks, hRest⟩ := LogSink.tryTake_eq_some.mp hTake
  have hRoom : rest.countDropped.isFull = false := by
    have hBound := h.bound
    rw [hChunks, List.length_cons, ← h.room] at hBound
    have hSame : rest.capacity = s.sink.capacity := by rw [hRest]
    refine LogSink.isFull_eq_false.mpr ?_
    rw [LogSink.countDropped, hSame]
    exact hBound
  let full := { s.beginPush chunk with pusher := .evicting chunk }
  let taken := { full.take .push oldest rest with pusher := .counting chunk }
  let counted := { taken with sink := rest.countDropped, pusher := .offering chunk }
  have hFirst : (s.beginPush chunk).pushOn = full := pushOn_of_full rfl hFull
  have hSecond : full.pushOn = taken := pushOn_evicting rfl hTake
  have hThird : taken.pushOn = counted := pushOn_counting rfl
  rw [Function.iterate_succ_apply, hFirst, Function.iterate_succ_apply, hSecond,
    Function.iterate_succ_apply, hThird, LogSink.push_of_full hFull hTake]
  exact pushOn_of_room (s := counted) rfl hRoom

theorem read_is_run {n : Nat} (hCaller : s.callers[n]? = some .reading) :
    ∃ t, Step s t ∧ t.sink = s.sink.read.2 ∧ t.callers = s.callers.set n .ended := by
  cases hTake : s.sink.tryTake with
  | none => exact ⟨_, .expire hCaller hTake, by rw [LogSink.read, hTake]; rfl, rfl⟩
  | some taken =>
    obtain ⟨chunk, rest⟩ := taken
    exact ⟨_, .receive hCaller hTake, by rw [LogSink.read, hTake]; rfl, rfl⟩

theorem clear_is_run {n : Nat} (hCaller : s.callers[n]? = some .clearing) :
    Leads s
      { s with
        sink := s.sink.clear
        callers := s.callers.set n .ended
        taken := s.taken ++ s.sink.chunks.map (SinkTaker.clear, ·) } := by
  obtain ⟨⟨capacity, chunks, dropped⟩, pusher, callers, pushed, queued, taken⟩ := s
  dsimp only at hCaller ⊢
  induction chunks generalizing taken with
  | nil =>
    rw [List.map_nil, List.append_nil]
    exact .single (.endClear hCaller rfl)
  | cons oldest rest ih =>
    have hRest := ih (taken ++ [(.clear, oldest)])
    rw [List.append_assoc, List.singleton_append] at hRest
    exact .head (.clearOne hCaller rfl) hRest

/-- However pushes interleave with reading and clearing, the chunks taken out and those still queued
are the chunks queued by pushes, in order, and a push that is over has queued its chunk. The queue
keeps its bound, and between pushes the counter says how many chunks pushes took out, below its
limit. A push that nobody disturbs ends; it takes out the oldest chunk if the sink is full and
nothing otherwise. Reads and clearings that nobody disturbs are steps of such a run. -/
theorem Leads.nothing_lost (h : Leads (start capacity) s) :
    s.taken.map Prod.snd ++ s.sink.chunks = s.queued ∧
      s.queued ++ s.pusher.chunk?.toList = s.pushed ∧
      s.sink.chunks.length ≤ max capacity 1 ∧
      (s.pusher = .idle → s.sink.dropped = s.takenBy .push ∧
        (s.pushed.length < UInt64.size → s.sink.counter.toNat = s.takenBy .push)) ∧
      (s.pusher = .idle → ∀ chunk,
        let after := pushOn^[4] (s.beginPush chunk)
        after.pusher = .idle ∧ after.sink = s.sink.push chunk ∧
          after.pushed = s.pushed ++ [chunk] ∧ after.queued = s.queued ++ [chunk] ∧
          (s.sink.chunks.length < max capacity 1 →
            after.sink.chunks = s.sink.chunks ++ [chunk] ∧ after.taken = s.taken) ∧
          (s.sink.chunks.length = max capacity 1 →
            ∃ oldest rest, s.sink.chunks = oldest :: rest ∧
              after.sink.chunks = rest ++ [chunk] ∧
              after.taken = s.taken ++ [(.push, oldest)])) ∧
      (∀ n, s.callers[n]? = some .reading →
        ∃ t, Step s t ∧ t.sink = s.sink.read.2 ∧ t.callers = s.callers.set n .ended) ∧
      (∀ n, s.callers[n]? = some .clearing →
        Leads s { s with
          sink := s.sink.clear
          callers := s.callers.set n .ended
          taken := s.taken ++ s.sink.chunks.map (SinkTaker.clear, ·) }) := by
  have hKept := (kept_start capacity).leads h
  refine ⟨hKept.order, hKept.waiting, hKept.bound, fun hIdle => ?_, fun hIdle chunk => ?_,
    fun _ => read_is_run, fun _ => clear_is_run⟩
  · have hCounted := hKept.counted
    rw [hIdle] at hCounted
    change s.sink.dropped = s.takenBy .push at hCounted
    refine ⟨hCounted, fun hFew => ?_⟩
    have hTaken := hKept.takenBy_le .push
    rw [LogSink.counter, hCounted, UInt64.toNat_ofNat_of_lt' (Nat.lt_of_le_of_lt hTaken hFew)]
  · intro after
    cases hFull : s.sink.isFull with
    | false =>
      have hRoom := LogSink.isFull_eq_false.mp hFull
      rw [hKept.room] at hRoom
      have hAfter : after = _ := pushAlone_of_room hFull chunk
      rw [hAfter, LogSink.push_of_room hFull]
      exact ⟨rfl, rfl, rfl, rfl, fun _ => ⟨rfl, rfl⟩,
        fun hLength => absurd hLength (Nat.ne_of_lt hRoom)⟩
    | true =>
      obtain ⟨oldest, rest, hTake⟩ := hKept.exists_tryTake hFull
      have hLength : max capacity 1 ≤ s.sink.chunks.length := by
        rw [← hKept.room]
        exact of_decide_eq_true hFull
      have hAfter : after = _ := hKept.pushAlone_of_full hFull hTake chunk
      rw [hAfter, LogSink.push_of_full hFull hTake]
      exact ⟨rfl, rfl, rfl, rfl, fun hRoom => absurd hLength (Nat.not_le.mpr hRoom),
        fun _ => ⟨oldest, rest.chunks, (LogSink.tryTake_eq_some.mp hTake).1, rfl, rfl⟩⟩

/-- A reader empties the queue after a push has found it full; the next push finds it full again. -/
theorem nothing_lost_raced :
    let s : SharedSink :=
      ⟨⟨1, [[66]], 0⟩, .idle, [.ended], [[65], [66]], [[65], [66]], [(.read, [65])]⟩
    Leads (start 0) s ∧ s.taken.map Prod.snd ++ s.sink.chunks = s.queued ∧
      s.sink.dropped = s.takenBy .push ∧
      ∃ oldest rest, s.sink.chunks = oldest :: rest ∧
        (pushOn^[4] (s.beginPush [67])).sink.chunks = rest ++ [[67]] ∧
        (pushOn^[4] (s.beginPush [67])).taken = s.taken ++ [(.push, oldest)] := by
  intro s
  have hRun : Leads (start 0) s :=
    .head (.beginPush [65] rfl) (.head (.pushOn nofun) (.head (.beginPush [66] rfl)
      (.head (.pushOn nofun) (.head .beginRead (.head (.receive (n := 0) rfl rfl)
        (.head (.pushOn nofun) (.single (.pushOn nofun))))))))
  obtain ⟨hOrder, -, -, hCounted, hAlone, -, -⟩ := Leads.nothing_lost hRun
  obtain ⟨-, -, -, -, -, hFull⟩ := hAlone rfl [67]
  exact ⟨hRun, hOrder, (hCounted rfl).1, hFull rfl⟩

end SharedSink

end DeviceRig
