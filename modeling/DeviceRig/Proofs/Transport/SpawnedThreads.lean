import DeviceRig.Transport.Worker
import Mathlib.Data.List.Basic
import Mathlib.Logic.Relation

/-!
# The threads of a worker

A worker holds the handle of a thread and a stop flag, which are replaced
independently, and each thread looks at the flag that it was given. A stop takes
the handle, sets the flag and waits, while the thread may end at any time.
-/
namespace DeviceRig

/-- A thread, with the number of the stop flag that it looks at. -/
structure SpawnedThread where
  status : ThreadStatus
  flag : Nat

structure JoinWait where
  thread : Nat
  seenRunning : Bool

/-- A worker with all threads that it has spawned and all stop flags that it has made; it has the
handle of one of the threads, if of any, and one of the flags. -/
structure SpawnedThreads where
  joinTimeout : Duration
  threads : List SpawnedThread
  flags : List Bool
  handle : Option Nat
  flag : Nat
  wait : Option JoinWait

namespace SpawnedThreads

def new (joinTimeout : Duration) : SpawnedThreads := ⟨joinTimeout, [], [false], none, 0, none⟩

def isRunning (s : SpawnedThreads) (n : Nat) : Bool :=
  s.threads[n]?.map SpawnedThread.status = some .running

/-- Starts a thread unless the one whose handle is held runs. One that has ended is reaped. -/
def start (s : SpawnedThreads) (spawned : Except Fault Unit) :
    Except WorkerError Bool × SpawnedThreads :=
  if s.handle.any s.isRunning then (.ok false, s)
  else
    -- The new flag is held even if no thread can be spawned for it.
    let fresh := { s with handle := none, flags := s.flags ++ [false], flag := s.flags.length }
    match spawned with
    | .error fault => (.error (.notSpawned fault), fresh)
    | .ok () => (.ok true, { fresh with
        threads := s.threads ++ [⟨.running, s.flags.length⟩]
        handle := some s.threads.length })

def requestStop (s : SpawnedThreads) (n : Nat) : SpawnedThreads :=
  { s with handle := none, flags := s.flags.set s.flag true, wait := some ⟨n, false⟩ }

def giveUp (s : SpawnedThreads) (n : Nat) : SpawnedThreads :=
  { s with handle := some n, wait := none }

def endThread (s : SpawnedThreads) (n : Nat) (panicked : Bool) : SpawnedThreads :=
  { s with threads := s.threads.modify n fun thread =>
      { thread with status := if panicked then .panicked else .finished } }

def joined : ThreadStatus → Except WorkerError Unit
  | .panicked => .error .panicked
  | .running | .finished => .ok ()

inductive Event where
  | started (answer : Except WorkerError Bool)
  | stopRequested
  | stopped (answer : Except WorkerError Unit)
  | silent

/-- The steps of a start, of a stop and of the threads. While a stop waits, nothing is called. -/
inductive Step : SpawnedThreads → Event → SpawnedThreads → Prop where
  | starts {s : SpawnedThreads} (hIdle : s.wait = none) (spawned : Except Fault Unit) :
      Step s (.started (s.start spawned).1) (s.start spawned).2
  | stopsNothing {s : SpawnedThreads} (hIdle : s.wait = none) (hHandle : s.handle = none) :
      Step s (.stopped (.ok ())) s
  | requestsStop {s : SpawnedThreads} {n : Nat} (hIdle : s.wait = none)
      (hHandle : s.handle = some n) : Step s .stopRequested (s.requestStop n)
  | waits {s : SpawnedThreads} {n : Nat} {seen : Bool} (hWait : s.wait = some ⟨n, seen⟩)
      (hRuns : s.isRunning n = true) : Step s .silent { s with wait := some ⟨n, true⟩ }
  | joins {s : SpawnedThreads} {n : Nat} {seen : Bool} {thread : SpawnedThread}
      (hWait : s.wait = some ⟨n, seen⟩) (hThread : s.threads[n]? = some thread)
      (hEnded : thread.status ≠ .running) :
      Step s (.stopped (joined thread.status)) { s with wait := none }
  | givesUp {s : SpawnedThreads} {n : Nat} (hWait : s.wait = some ⟨n, true⟩) :
      Step s (.stopped (.error (.joinTimedOut s.joinTimeout))) (s.giveUp n)
  | ends {s : SpawnedThreads} {n : Nat} (hRuns : s.isRunning n = true) (panicked : Bool) :
      Step s .silent (s.endThread n panicked)

abbrev Leads : SpawnedThreads → SpawnedThreads → Prop :=
  Relation.ReflTransGen fun s t => ∃ event, Step s event t

/-- The thread whose handle is held, by the worker or by the stop that waits for it. -/
def held (s : SpawnedThreads) : Option Nat := s.handle.or (s.wait.map JoinWait.thread)

/-- The worker as it is seen from outside: the held thread with its flag. -/
def worker (s : SpawnedThreads) : LinkWorker :=
  ⟨s.joinTimeout, s.held.bind fun n => s.threads[n]?.map fun thread =>
    ⟨thread.status, s.flags.getD thread.flag false⟩⟩

variable {s t : SpawnedThreads} {n : Nat}

theorem isRunning_iff : s.isRunning n = true ↔ ∃ flag, s.threads[n]? = some ⟨.running, flag⟩ := by
  unfold isRunning
  rw [decide_eq_true_iff, Option.map_eq_some_iff]
  constructor
  · rintro ⟨⟨status, flag⟩, hThread, rfl⟩
    exact ⟨flag, hThread⟩
  · rintro ⟨flag, hThread⟩
    exact ⟨_, hThread, rfl⟩

theorem start_of_running (hRuns : s.handle.any s.isRunning = true) (spawned : Except Fault Unit) :
    s.start spawned = (.ok false, s) := by
  rw [start, if_pos hRuns]

theorem start_of_free (hFree : s.handle.any s.isRunning = false) :
    s.start (.ok ()) = (.ok true, { s with
      threads := s.threads ++ [⟨.running, s.flags.length⟩]
      flags := s.flags ++ [false]
      handle := some s.threads.length
      flag := s.flags.length }) := by
  rw [start, if_neg (by simp [hFree])]

theorem start_of_notSpawned (hFree : s.handle.any s.isRunning = false) (fault : Fault) :
    s.start (.error fault) = (.error (.notSpawned fault), { s with
      flags := s.flags ++ [false]
      handle := none
      flag := s.flags.length }) := by
  rw [start, if_neg (by simp [hFree])]

theorem getElem?_endThread (s : SpawnedThreads) (n : Nat) (panicked : Bool) (m : Nat) :
    (s.endThread n panicked).threads[m]? = s.threads[m]?.map fun thread =>
      if n = m then ⟨if panicked then .panicked else .finished, thread.flag⟩ else thread := by
  rw [endThread, List.getElem?_modify]
  rfl

/-- What every step keeps. The held thread looks at the held flag, and no other thread runs. -/
structure Sound (s : SpawnedThreads) : Prop where
  held : ∀ n, s.held = some n → ∃ status, s.threads[n]? = some ⟨status, s.flag⟩
  running : ∀ n, s.isRunning n = true → s.held = some n
  oneHolder : s.wait = none ∨ s.handle = none
  flag : s.flag < s.flags.length
  flags : ∀ (n : Nat) (thread : SpawnedThread), s.threads[n]? = some thread →
    thread.flag < s.flags.length
  requested : s.wait.isSome = true → s.flags[s.flag]? = some true

theorem sound_new (joinTimeout : Duration) : (new joinTimeout).Sound where
  held := nofun
  running := nofun
  oneHolder := .inl rfl
  flag := Nat.zero_lt_one
  flags := nofun
  requested := nofun

theorem held_of_idle (hIdle : s.wait = none) : s.held = s.handle := by
  rw [held, hIdle, Option.map_none, Option.or_none]

theorem Sound.handle_eq_none (h : s.Sound) {wait : JoinWait} (hWait : s.wait = some wait) :
    s.handle = none :=
  h.oneHolder.resolve_left (by simp [hWait])

theorem Sound.held_eq (h : s.Sound) {wait : JoinWait} (hWait : s.wait = some wait) :
    s.held = some wait.thread := by
  rw [SpawnedThreads.held, h.handle_eq_none hWait, hWait]
  rfl

theorem Sound.running_iff (h : s.Sound) (hIdle : s.wait = none) :
    s.handle.any s.isRunning = true ↔ ∃ n, s.isRunning n = true := by
  constructor
  · intro hRuns
    cases hHandle : s.handle with
    | none => simp [hHandle] at hRuns
    | some n => exact ⟨n, by simpa [hHandle] using hRuns⟩
  · rintro ⟨n, hRuns⟩
    have hHandle := h.running n hRuns
    rw [held_of_idle hIdle] at hHandle
    rw [hHandle]
    exact hRuns

theorem getElem?_spawned {threads : List SpawnedThread} {new thread : SpawnedThread}
    (h : (threads ++ [new])[n]? = some thread) :
    threads[n]? = some thread ∨ n = threads.length ∧ thread = new := by
  rcases Nat.lt_trichotomy n threads.length with hOld | rfl | hBeyond
  · rw [List.getElem?_append_left hOld] at h
    exact .inl h
  · rw [List.getElem?_concat_length] at h
    exact .inr ⟨rfl, (Option.some.inj h).symm⟩
  · rw [List.getElem?_eq_none (by simp; omega)] at h
    cases h

theorem Sound.start (h : s.Sound) (hIdle : s.wait = none) (spawned : Except Fault Unit) :
    (s.start spawned).2.Sound := by
  cases hRuns : s.handle.any s.isRunning with
  | true =>
    rw [start_of_running hRuns]
    exact h
  | false =>
    -- Whatever runs is held, and what is held does not run.
    have hNone : ∀ n, s.isRunning n ≠ true := by
      intro n hRunning
      rw [(h.running_iff hIdle).mpr ⟨n, hRunning⟩] at hRuns
      cases hRuns
    have hFlags : ∀ (n : Nat) (thread : SpawnedThread), s.threads[n]? = some thread →
        thread.flag < (s.flags ++ [false]).length := by
      intro n thread hThread
      rw [List.length_append]
      exact Nat.lt_add_right 1 (h.flags n thread hThread)
    have hFlag : s.flags.length < (s.flags ++ [false]).length := by
      rw [List.length_append]
      exact Nat.lt_succ_self _
    cases spawned with
    | error fault =>
      rw [start_of_notSpawned hRuns]
      refine ⟨?_, fun n hRunning => absurd hRunning (hNone n), .inl hIdle, hFlag, hFlags, ?_⟩
      · intro n hHeld
        simp [SpawnedThreads.held, hIdle] at hHeld
      · rw [hIdle]
        exact nofun
    | ok _ =>
      rw [start_of_free hRuns]
      constructor
      case held =>
        intro n hHeld
        obtain rfl : s.threads.length = n := by simpa [SpawnedThreads.held, hIdle] using hHeld
        exact ⟨.running, List.getElem?_concat_length⟩
      case running =>
        intro n hRunning
        obtain ⟨flag, hThread⟩ := isRunning_iff.mp hRunning
        rcases getElem?_spawned hThread with hOld | ⟨rfl, -⟩
        · exact absurd (isRunning_iff.mpr ⟨flag, hOld⟩) (hNone n)
        · rfl
      case oneHolder => exact .inl hIdle
      case flag => exact hFlag
      case flags =>
        intro n thread hThread
        rcases getElem?_spawned hThread with hOld | ⟨-, rfl⟩
        · exact hFlags n thread hOld
        · exact hFlag
      case requested =>
        rw [hIdle]
        exact nofun

theorem Sound.requestStop (h : s.Sound) (hIdle : s.wait = none) (hHandle : s.handle = some n) :
    (s.requestStop n).Sound := by
  have hHeld : s.held = some n := (held_of_idle hIdle).trans hHandle
  constructor
  case held =>
    intro m hSame
    exact h.held m (hHeld.trans hSame)
  case running =>
    intro m hRunning
    exact hHeld.symm.trans (h.running m hRunning)
  case oneHolder => exact .inr rfl
  case flag =>
    rw [SpawnedThreads.requestStop, List.length_set]
    exact h.flag
  case flags =>
    rw [SpawnedThreads.requestStop, List.length_set]
    exact h.flags
  case requested =>
    intro hWait
    exact List.getElem?_set_self h.flag

theorem Sound.waits (h : s.Sound) {seen : Bool} (hWait : s.wait = some ⟨n, seen⟩) :
    Sound { s with wait := some ⟨n, true⟩ } := by
  have hHandle := h.handle_eq_none hWait
  have hSame : SpawnedThreads.held { s with wait := some ⟨n, true⟩ } = s.held := by
    rw [SpawnedThreads.held, SpawnedThreads.held, hHandle, hWait]
    rfl
  refine ⟨?_, ?_, .inr hHandle, h.flag, h.flags, fun _ => h.requested (by rw [hWait]; rfl)⟩
  · rw [hSame]
    exact h.held
  · rw [hSame]
    exact h.running

theorem Sound.joins (h : s.Sound) {seen : Bool} {thread : SpawnedThread}
    (hWait : s.wait = some ⟨n, seen⟩) (hThread : s.threads[n]? = some thread)
    (hEnded : thread.status ≠ .running) :
    (∀ m, s.isRunning m ≠ true) ∧ Sound { s with wait := none } := by
  have hHandle := h.handle_eq_none hWait
  -- Only the thread that is waited for could run, and it has ended.
  have hNone : ∀ m, s.isRunning m ≠ true := by
    intro m hRunning
    have hHeld := (h.held_eq hWait).symm.trans (h.running m hRunning)
    obtain rfl : n = m := Option.some.inj hHeld
    obtain ⟨flag, hRuns⟩ := isRunning_iff.mp hRunning
    rw [Option.some.inj (hThread.symm.trans hRuns)] at hEnded
    exact hEnded rfl
  refine ⟨hNone, ?_, fun m hRunning => absurd hRunning (hNone m), .inl rfl, h.flag, h.flags, nofun⟩
  rw [held_of_idle rfl, hHandle]
  exact nofun

theorem Sound.giveUp (h : s.Sound) {seen : Bool} (hWait : s.wait = some ⟨n, seen⟩) :
    (s.giveUp n).Sound := by
  have hHeld := h.held_eq hWait
  refine ⟨?_, ?_, .inl rfl, h.flag, h.flags, nofun⟩
  · rw [held_of_idle rfl]
    rintro m hSame
    exact h.held m (hHeld.trans hSame)
  · intro m hRunning
    exact hHeld.symm.trans (h.running m hRunning)

theorem isRunning_endThread {panicked : Bool} {m : Nat} :
    (s.endThread n panicked).isRunning m = true ↔ s.isRunning m = true ∧ m ≠ n := by
  rw [isRunning_iff, isRunning_iff, getElem?_endThread]
  by_cases hSame : n = m
  · subst hSame
    cases panicked <;> simp
  · simp only [if_neg hSame, Option.map_id']
    exact (and_iff_left (Ne.symm hSame)).symm

theorem Sound.endThread (h : s.Sound) (n : Nat) (panicked : Bool) :
    (s.endThread n panicked).Sound := by
  constructor
  case held =>
    intro m hHeld
    obtain ⟨status, hThread⟩ := h.held m hHeld
    rw [getElem?_endThread, hThread, Option.map_some]
    split <;> exact ⟨_, rfl⟩
  case running =>
    intro m hRunning
    exact h.running m (isRunning_endThread.mp hRunning).1
  case flags =>
    intro m thread hThread
    rw [getElem?_endThread] at hThread
    obtain ⟨old, hOld, rfl⟩ := Option.map_eq_some_iff.mp hThread
    split <;> exact h.flags m old hOld
  case oneHolder => exact h.oneHolder
  case flag => exact h.flag
  case requested => exact h.requested

theorem Sound.step {event : Event} (h : s.Sound) (hStep : Step s event t) : t.Sound := by
  cases hStep with
  | starts hIdle spawned => exact h.start hIdle spawned
  | stopsNothing hIdle hHandle => exact h
  | requestsStop hIdle hHandle => exact h.requestStop hIdle hHandle
  | waits hWait hRuns => exact h.waits hWait
  | joins hWait hThread hEnded => exact (h.joins hWait hThread hEnded).2
  | givesUp hWait => exact h.giveUp hWait
  | ends hRuns panicked => exact h.endThread _ panicked

theorem Sound.leads (h : s.Sound) (hLeads : Leads s t) : t.Sound := by
  induction hLeads with
  | refl => exact h
  | tail _ hStep ih =>
    obtain ⟨event, hStep⟩ := hStep
    exact ih.step hStep

def IsAsked (s : SpawnedThreads) (n : Nat) : Prop :=
  ∃ thread, s.threads[n]? = some thread ∧ s.flags[thread.flag]? = some true

theorem IsAsked.step {event : Event} (h : s.IsAsked n) (hStep : Step s event t) : t.IsAsked n := by
  obtain ⟨thread, hThread, hSet⟩ := h
  -- New flags and threads come behind the old ones, which keep their numbers.
  have hFlags : ∀ more, (s.flags ++ more)[thread.flag]? = some true := by
    intro more
    rw [List.getElem?_append_left (List.getElem?_eq_some_iff.mp hSet).1]
    exact hSet
  cases hStep with
  | starts hIdle spawned =>
    cases hRuns : s.handle.any s.isRunning with
    | true =>
      rw [start_of_running hRuns]
      exact ⟨thread, hThread, hSet⟩
    | false =>
      cases spawned with
      | error fault =>
        rw [start_of_notSpawned hRuns]
        exact ⟨thread, hThread, hFlags _⟩
      | ok _ =>
        rw [start_of_free hRuns]
        refine ⟨thread, ?_, hFlags _⟩
        rw [List.getElem?_append_left (List.getElem?_eq_some_iff.mp hThread).1]
        exact hThread
  | requestsStop hIdle hHandle =>
    refine ⟨thread, hThread, ?_⟩
    rw [requestStop, List.getElem?_set]
    split
    · rename_i hSame
      rw [if_pos (by rw [hSame]; exact (List.getElem?_eq_some_iff.mp hSet).1)]
    · exact hSet
  | @ends ended hRuns panicked =>
    refine ⟨_, by rw [getElem?_endThread, hThread, Option.map_some], ?_⟩
    split <;> exact hSet
  | stopsNothing hIdle hHandle => exact ⟨thread, hThread, hSet⟩
  | waits hWait hRuns => exact ⟨thread, hThread, hSet⟩
  | joins hWait hJoined hEnded => exact ⟨thread, hThread, hSet⟩
  | givesUp hWait => exact ⟨thread, hThread, hSet⟩

theorem IsAsked.leads (h : s.IsAsked n) (hLeads : Leads s t) : t.IsAsked n := by
  induction hLeads with
  | refl => exact h
  | tail _ hStep ih =>
    obtain ⟨event, hStep⟩ := hStep
    exact ih.step hStep

theorem Sound.running_held (h : s.Sound) (hRunning : s.isRunning n = true) :
    s.held = some n ∧ s.threads[n]? = some ⟨.running, s.flag⟩ := by
  have hHeld := h.running n hRunning
  obtain ⟨status, hThread⟩ := h.held n hHeld
  obtain ⟨flag, hRuns⟩ := isRunning_iff.mp hRunning
  obtain ⟨rfl, rfl⟩ := SpawnedThread.mk.inj (Option.some.inj (hThread.symm.trans hRuns))
  exact ⟨hHeld, hThread⟩

theorem Sound.start_refuses (h : s.Sound) (hIdle : s.wait = none) (hRunning : s.isRunning n = true)
    (spawned : Except Fault Unit) : s.start spawned = (.ok false, s) :=
  start_of_running ((h.running_iff hIdle).mpr ⟨n, hRunning⟩) spawned

/-- One thread more has been spawned and is held. Its flag is not set, and no other thread looks at
it. -/
structure Spawns (s t : SpawnedThreads) : Prop where
  threads : t.threads = s.threads ++ [⟨.running, t.flag⟩]
  handle : t.handle = some s.threads.length
  notAsked : t.flags[t.flag]? = some false
  own : ∀ thread ∈ s.threads, thread.flag ≠ t.flag

theorem Sound.start_spawns (h : s.Sound) (hIdle : s.wait = none)
    (hNone : ∀ n, s.isRunning n ≠ true) :
    ∃ t, s.start (.ok ()) = (.ok true, t) ∧ Spawns s t := by
  have hFree : s.handle.any s.isRunning = false := by
    rw [Bool.eq_false_iff]
    intro hRuns
    obtain ⟨n, hRunning⟩ := (h.running_iff hIdle).mp hRuns
    exact hNone n hRunning
  refine ⟨_, start_of_free hFree, rfl, rfl, List.getElem?_concat_length, fun thread hThread => ?_⟩
  obtain ⟨n, hPlace⟩ := List.mem_iff_getElem?.mp hThread
  exact Nat.ne_of_lt (h.flags n thread hPlace)

theorem Sound.requestStop_asks (h : s.Sound) (hRunning : s.isRunning n = true) (m : Nat) :
    (s.requestStop m).IsAsked n :=
  ⟨_, (h.running_held hRunning).2, List.getElem?_set_self h.flag⟩

/-- A stop that gave up can be tried again as long as its thread runs, and nothing is started till
then. -/
theorem Sound.retries (h : s.Sound) (hAsked : s.IsAsked n) (hRunning : s.isRunning n = true) :
    s.held = some n ∧ s.flags[s.flag]? = some true ∧
      (s.wait = none → (∀ spawned, s.start spawned = (.ok false, s)) ∧
        Step s .stopRequested (s.requestStop n)) := by
  obtain ⟨hHeld, hThread⟩ := h.running_held hRunning
  obtain ⟨thread, hSame, hSet⟩ := hAsked
  obtain rfl := Option.some.inj (hThread.symm.trans hSame)
  refine ⟨hHeld, hSet, fun hIdle => ⟨h.start_refuses hIdle hRunning, .requestsStop hIdle ?_⟩⟩
  rwa [held_of_idle hIdle] at hHeld

theorem Sound.stopped (h : s.Sound) {answer : Except WorkerError Unit}
    (hStep : Step s (.stopped answer) t) :
    ((answer = .ok () ∨ answer = .error .panicked) ∧ t.handle = none ∧
        ∀ n, t.isRunning n ≠ true) ∨
      (answer = .error (.joinTimedOut s.joinTimeout) ∧ ∃ n, t.handle = some n ∧ t.IsAsked n) := by
  cases hStep with
  | stopsNothing hIdle hHandle =>
    refine .inl ⟨.inl rfl, hHandle, fun n hRunning => ?_⟩
    have hHeld := h.running n hRunning
    rw [held_of_idle hIdle, hHandle] at hHeld
    cases hHeld
  | @joins n seen thread hWait hThread hEnded =>
    refine .inl ⟨?_, h.handle_eq_none hWait, (h.joins hWait hThread hEnded).1⟩
    cases thread.status with
    | running => exact .inl rfl
    | finished => exact .inl rfl
    | panicked => exact .inr rfl
  | @givesUp n hWait =>
    refine .inr ⟨rfl, n, rfl, ?_⟩
    obtain ⟨status, hThread⟩ := h.held n (h.held_eq hWait)
    exact ⟨_, hThread, h.requested (by rw [hWait]; rfl)⟩

theorem Sound.stop_nothing (h : s.Sound) (hIdle : s.wait = none) (hHandle : s.handle = none)
    {event : Event} (hStep : Step s event t) :
    (∃ spawned, event = .started (s.start spawned).1) ∨ event = .stopped (.ok ()) ∧ t = s := by
  cases hStep with
  | starts hIdle spawned => exact .inl ⟨spawned, rfl⟩
  | stopsNothing hIdle hHandle => exact .inr ⟨rfl, rfl⟩
  | requestsStop hIdle hSome => cases hHandle.symm.trans hSome
  | waits hWait hRuns => cases hIdle.symm.trans hWait
  | joins hWait hThread hEnded => cases hIdle.symm.trans hWait
  | givesUp hWait => cases hIdle.symm.trans hWait
  | ends hRuns panicked =>
    have hHeld := h.running _ hRuns
    rw [held_of_idle hIdle, hHandle] at hHeld
    cases hHeld

theorem stop_ended (hNone : ∀ n, s.isRunning n ≠ true) (hRequest : Step s .stopRequested t)
    {event : Event} {u : SpawnedThreads} (hStep : Step t event u) :
    ∃ n thread, s.handle = some n ∧ s.threads[n]? = some thread ∧
      event = .stopped (joined thread.status) ∧ u.threads = s.threads ∧ u.handle = none := by
  cases hRequest with
  | @requestsStop n hIdle hHandle =>
    cases hStep with
    | starts hWait spawned => cases hWait
    | stopsNothing hWait hGone => cases hWait
    | requestsStop hWait hSome => cases hWait
    | @waits m seen hWait hRuns => exact absurd hRuns (hNone m)
    | @joins m seen thread hWait hThread hEnded =>
      cases hWait
      exact ⟨n, thread, hHandle, hThread, rfl, rfl, rfl⟩
    | givesUp hWait => cases hWait
    | @ends m hRuns panicked => exact absurd hRuns (hNone m)

theorem worker_of_free (hHeld : s.held = none) : s.worker = ⟨s.joinTimeout, none⟩ := by
  rw [worker, hHeld]
  rfl

theorem worker_of_held {thread : SpawnedThread} (hHeld : s.held = some n)
    (hThread : s.threads[n]? = some thread) :
    s.worker = ⟨s.joinTimeout, some ⟨thread.status, s.flags.getD thread.flag false⟩⟩ := by
  rw [worker, hHeld, Option.bind_some, hThread]
  rfl

theorem Sound.worker_isAlive (h : s.Sound) :
    s.worker.isAlive = true ↔ ∃ n, s.isRunning n = true := by
  constructor
  · intro hAlive
    cases hHeld : s.held with
    | none =>
      rw [worker_of_free hHeld] at hAlive
      cases hAlive
    | some n =>
      obtain ⟨status, hThread⟩ := h.held n hHeld
      rw [worker_of_held hHeld hThread] at hAlive
      obtain rfl : status = .running := of_decide_eq_true hAlive
      exact ⟨n, isRunning_iff.mpr ⟨_, hThread⟩⟩
  · rintro ⟨n, hRunning⟩
    obtain ⟨hHeld, hThread⟩ := h.running_held hRunning
    rw [worker_of_held hHeld hThread]
    rfl

theorem Sound.worker_start (h : s.Sound) (hIdle : s.wait = none) (spawned : Except Fault Unit) :
    s.worker.start spawned = ((s.start spawned).1, (s.start spawned).2.worker) := by
  have hSame : s.worker.isAlive = s.handle.any s.isRunning := by
    rw [Bool.eq_iff_iff, h.worker_isAlive, h.running_iff hIdle]
  unfold LinkWorker.start
  rw [hSame]
  cases hRuns : s.handle.any s.isRunning with
  | true =>
    rw [start_of_running hRuns]
    rfl
  | false =>
    cases spawned with
    | error fault =>
      rw [start_of_notSpawned hRuns, if_neg Bool.false_ne_true]
      refine Prod.ext rfl (Eq.symm (worker_of_free ?_))
      simp [SpawnedThreads.held, hIdle]
    | ok _ =>
      rw [start_of_free hRuns, if_neg Bool.false_ne_true]
      refine Prod.ext rfl (Eq.symm ((worker_of_held rfl List.getElem?_concat_length).trans ?_))
      simp [SpawnedThreads.worker]

theorem Sound.worker_endThread (h : s.Sound) (hRunning : s.isRunning n = true) (panicked : Bool) :
    (s.endThread n panicked).worker = s.worker.threadEnds panicked := by
  obtain ⟨hHeld, hThread⟩ := h.running_held hRunning
  have hEnded := getElem?_endThread s n panicked n
  rw [hThread, Option.map_some, if_pos rfl] at hEnded
  rw [worker_of_held hHeld hThread, worker_of_held (s := s.endThread n panicked) hHeld hEnded]
  rfl

theorem Sound.worker_stop (h : s.Sound) (hIdle : s.wait = none) (wait : LinkWorker.StopWait) :
    ∃ t u, Leads s t ∧ Step t (.stopped (s.worker.stop wait).1) u ∧
      u.worker = (s.worker.stop wait).2 := by
  cases hHandle : s.handle with
  | none =>
    have hFree := worker_of_free ((held_of_idle hIdle).trans hHandle)
    rw [hFree]
    exact ⟨s, s, .refl, .stopsNothing hIdle hHandle, hFree⟩
  | some n =>
    have hHeld := (held_of_idle hIdle).trans hHandle
    obtain ⟨status, hThread⟩ := h.held n hHeld
    have hAsked : Leads s (s.requestStop n) := .single ⟨_, .requestsStop hIdle hHandle⟩
    rw [worker_of_held hHeld hThread]
    cases status with
    | finished =>
      exact ⟨_, _, hAsked, .joins (s := s.requestStop n) rfl hThread nofun, rfl⟩
    | panicked =>
      exact ⟨_, _, hAsked, .joins (s := s.requestStop n) rfl hThread nofun, rfl⟩
    | running =>
      have hRuns : (s.requestStop n).isRunning n = true := isRunning_iff.mpr ⟨_, hThread⟩
      -- Within the time the thread ends in one way or the other, and is joined.
      have hJoins : ∀ panicked, ∃ u, Step ((s.requestStop n).endThread n panicked)
          (.stopped (joined (if panicked then .panicked else .finished))) u ∧
            u.worker = ⟨s.joinTimeout, none⟩ := by
        intro panicked
        have hEnded := getElem?_endThread (s.requestStop n) n panicked n
        rw [show (s.requestStop n).threads = s.threads from rfl, hThread, Option.map_some,
          if_pos rfl] at hEnded
        exact ⟨_, .joins rfl hEnded (by cases panicked <;> exact nofun), rfl⟩
      cases wait with
      | finishes =>
        obtain ⟨u, hStopped, hWorker⟩ := hJoins false
        exact ⟨_, u, hAsked.tail ⟨_, .ends hRuns false⟩, hStopped, hWorker⟩
      | panics =>
        obtain ⟨u, hStopped, hWorker⟩ := hJoins true
        exact ⟨_, u, hAsked.tail ⟨_, .ends hRuns true⟩, hStopped, hWorker⟩
      | outlives =>
        have hSeen := hAsked.tail ⟨_, .waits rfl hRuns⟩
        have hSet : (s.flags.set s.flag true)[s.flag]? = some true := List.getElem?_set_self h.flag
        have hKept := @worker_of_held
          (SpawnedThreads.giveUp { s.requestStop n with wait := some ⟨n, true⟩ } n) n _ rfl hThread
        refine ⟨_, _, hSeen, .givesUp rfl, hKept.trans ?_⟩
        simp [SpawnedThreads.giveUp, SpawnedThreads.requestStop, hSet, LinkWorker.stop]

/-- Only one thread runs at a time, the held one, which looks at the held flag. A thread is started,
with a flag of its own that is not set, if and only if none runs. A stop that does not time out
leaves no thread that runs, and it comes back at once if there was none. One that gave up leaves the
handle, and the flag set: as long as that thread runs, nothing is started, and stopping can be tried
again. -/
theorem Leads.one_worker {joinTimeout : Duration} (h : Leads (new joinTimeout) s) :
    (∀ n, s.isRunning n = true → s.held = some n ∧ s.threads[n]? = some ⟨.running, s.flag⟩ ∧
        ∀ panicked, (s.endThread n panicked).worker = s.worker.threadEnds panicked) ∧
      (s.wait = none → ∀ spawned,
        s.worker.start spawned = ((s.start spawned).1, (s.start spawned).2.worker) ∧
          ((∃ n, s.isRunning n = true) → s.start spawned = (.ok false, s))) ∧
      (s.wait = none → ∀ wait, ∃ t u, Leads s t ∧ Step t (.stopped (s.worker.stop wait).1) u ∧
        u.worker = (s.worker.stop wait).2) ∧
      (s.wait = none → (∀ n, s.isRunning n ≠ true) →
        ∃ t, s.start (.ok ()) = (.ok true, t) ∧ Spawns s t) ∧
      (∀ answer t, Step s (.stopped answer) t →
        (answer = .ok () ∨ answer = .error .panicked) ∧ t.handle = none ∧
            (∀ n, t.isRunning n ≠ true) ∨
          answer = .error (.joinTimedOut s.joinTimeout) ∧ ∃ n, t.handle = some n ∧ t.IsAsked n ∧
            ∀ u, Leads t u → u.isRunning n = true →
              u.held = some n ∧ u.flags[u.flag]? = some true ∧
                (u.wait = none → (∀ spawned, u.start spawned = (.ok false, u)) ∧
                  Step u .stopRequested (u.requestStop n))) ∧
      (s.wait = none → s.handle = none → Step s (.stopped (.ok ())) s ∧
        ∀ event t, Step s event t →
          (∃ spawned, event = .started (s.start spawned).1) ∨
            event = .stopped (.ok ()) ∧ t = s) ∧
      ∀ t, Step s .stopRequested t →
        (∀ n, s.isRunning n = true → t.IsAsked n) ∧
          ((∀ n, s.isRunning n ≠ true) → ∀ event u, Step t event u →
            ∃ n thread, s.handle = some n ∧ s.threads[n]? = some thread ∧
              event = .stopped (joined thread.status) ∧ u.threads = s.threads ∧
                u.handle = none) := by
  have hSound := (sound_new joinTimeout).leads h
  refine ⟨fun n hRunning => ?_, fun hIdle spawned => ?_, hSound.worker_stop, hSound.start_spawns,
    fun answer t hStep => ?_, fun hIdle hHandle => ?_, fun t hRequest => ?_⟩
  · obtain ⟨hHeld, hThread⟩ := hSound.running_held hRunning
    exact ⟨hHeld, hThread, hSound.worker_endThread hRunning⟩
  · refine ⟨hSound.worker_start hIdle spawned, ?_⟩
    rintro ⟨n, hRunning⟩
    exact hSound.start_refuses hIdle hRunning spawned
  · rcases hSound.stopped hStep with hDone | ⟨hAnswer, n, hHandle, hAsked⟩
    · exact .inl hDone
    · refine .inr ⟨hAnswer, n, hHandle, hAsked, fun u hLeads hRunning => ?_⟩
      exact ((hSound.step hStep).leads hLeads).retries (hAsked.leads hLeads) hRunning
  · refine ⟨.stopsNothing hIdle hHandle, fun event t hStep => ?_⟩
    exact hSound.stop_nothing hIdle hHandle hStep
  · refine ⟨fun n hRunning => ?_, fun hNone event u hStep => stop_ended hNone hRequest hStep⟩
    cases hRequest with
    | requestsStop hIdle hHandle => exact hSound.requestStop_asks hRunning _

theorem retried_after_timeout :
    ∃ s, Leads (new ⟨1⟩) s ∧ s.isRunning 0 = true ∧ s.start (.ok ()) = (.ok false, s) ∧
      Step s .stopRequested (s.requestStop 0) := by
  have hStarted : Leads (new ⟨1⟩) _ := .single ⟨_, .starts rfl (.ok ())⟩
  have hAsked := hStarted.tail ⟨_, .requestsStop (n := 0) rfl rfl⟩
  have hSeen := hAsked.tail ⟨_, .waits (n := 0) rfl rfl⟩
  have hGivesUp := Step.givesUp (s := { ((new ⟨1⟩).start (.ok ())).2.requestStop 0 with
    wait := some ⟨0, true⟩ }) (n := 0) rfl
  rcases (Leads.one_worker hSeen).2.2.2.2.1 _ _ hGivesUp with
    ⟨hAnswer, -⟩ | ⟨-, n, hHandle, -, hKept⟩
  · rcases hAnswer with hAnswer | hAnswer <;> cases hAnswer
  · cases hHandle
    obtain ⟨hRefused, hRetried⟩ := (hKept _ .refl rfl).2.2 rfl
    exact ⟨_, hSeen.tail ⟨_, hGivesUp⟩, rfl, hRefused (.ok ()), hRetried⟩

end SpawnedThreads

end DeviceRig
