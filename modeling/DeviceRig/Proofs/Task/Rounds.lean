import DeviceRig.Task.Supervision
import Mathlib.Data.List.Basic

/-!
# Rounds of calls on processes

Supervision goes in rounds of calls: a first round of waits, and for those that
still run a round of requests to exit, waits, kills and waits. Every round
makes one call for each of its slots, and each round of waits uses up one
answer of every process in it, so what becomes of a process is decided by its
own answers alone.
-/
namespace DeviceRig

def WaitAnswer.CutShort (answer : WaitAnswer) (timeout : Duration) : Prop :=
  answer.outcome.fault?.isSome ∨
    answer.outcome = .running ∧ answer.takes.nanoseconds < timeout.nanoseconds

namespace Supervisor

/-- How the process in a slot answers the wait of a number, counted from zero, if it does. -/
def answerAt (processes : List ProcessScript) (slot n : Nat) : Option WaitAnswer :=
  (((processes[slot]?).map ProcessScript.waits).getD [])[n]?

/-- What that wait returns. A wait that fails returns nothing, as one for a process that runs. -/
def returnedAt (processes : List ProcessScript) (slot n : Nat) : Option ExitStatus :=
  (answerAt processes slot n).bind fun answer => answer.outcome.status?

/-- The slots of the processes that still run after so many rounds of waiting. -/
def remaining (processes : List ProcessScript) : Nat → List Nat
  | 0 => List.range processes.length
  | rounds + 1 =>
    (remaining processes rounds).filter fun slot => (returnedAt processes slot rounds).isNone

theorem mem_remaining_succ {processes : List ProcessScript} {rounds slot : Nat} :
    slot ∈ remaining processes (rounds + 1) ↔
      slot ∈ remaining processes rounds ∧ returnedAt processes slot rounds = none := by
  rw [remaining, List.mem_filter, Option.isNone_iff_eq_none]

theorem mem_remaining_one {processes : List ProcessScript} {slot : Nat}
    (hSlot : slot < processes.length) :
    slot ∈ remaining processes 1 ↔ returnedAt processes slot 0 = none := by
  rw [mem_remaining_succ, remaining, List.mem_range, and_iff_right hSlot]

theorem mem_remaining_two {processes : List ProcessScript} {slot : Nat}
    (hSlot : slot < processes.length) :
    slot ∈ remaining processes 2 ↔
      returnedAt processes slot 0 = none ∧ returnedAt processes slot 1 = none := by
  rw [mem_remaining_succ, mem_remaining_one hSlot]

theorem nodup_remaining (processes : List ProcessScript) (rounds : Nat) :
    (remaining processes rounds).Nodup := by
  induction rounds with
  | zero => exact List.nodup_range
  | succ rounds ih => exact ih.filter _

theorem remaining_subset (processes : List ProcessScript) (rounds : Nat) :
    remaining processes (rounds + 1) ⊆ remaining processes rounds :=
  List.filter_subset_self _

/-- One call for each of some slots, in their order, and each of them as it should be. -/
structure IsRound (holds : ProcessEvent → Prop) (slots : List Nat) (events : List ProcessEvent) :
    Prop where
  slots : events.map ProcessEvent.slot = slots
  each : ∀ event ∈ events, holds event

theorem IsRound.mono {holds weaker : ProcessEvent → Prop} {slots : List Nat}
    {events : List ProcessEvent} (h : IsRound holds slots events)
    (hWeaker : ∀ event, holds event → weaker event) : IsRound weaker slots events where
  slots := h.slots
  each event hEvent := hWeaker event (h.each event hEvent)

theorem isRound_nil (holds : ProcessEvent → Prop) : IsRound holds [] [] where
  slots := rfl
  each := List.forall_mem_nil _

theorem IsRound.cons {holds : ProcessEvent → Prop} {slot : Nat} {slots : List Nat}
    {event : ProcessEvent} {events : List ProcessEvent} (hSlot : event.slot = slot)
    (hEvent : holds event) (h : IsRound holds slots events) :
    IsRound holds (slot :: slots) (event :: events) where
  slots := by rw [List.map_cons, hSlot, h.slots]
  each := List.forall_mem_cons.mpr ⟨hEvent, h.each⟩

theorem IsRound.slot_mem {holds : ProcessEvent → Prop} {slots : List Nat}
    {events : List ProcessEvent} (h : IsRound holds slots events) {event : ProcessEvent}
    (hEvent : event ∈ events) : event.slot ∈ slots :=
  h.slots ▸ List.mem_map_of_mem hEvent

theorem IsRound.filter_of_mem {holds : ProcessEvent → Prop} {slots : List Nat}
    {events : List ProcessEvent} (h : IsRound holds slots events) (hNodup : slots.Nodup)
    {slot : Nat} (hSlot : slot ∈ slots) :
    ∃ event, holds event ∧ event.slot = slot ∧
      (events.filter fun event => event.slot = slot) = [event] := by
  obtain ⟨rfl, hEach⟩ := h
  induction events with
  | nil => cases hSlot
  | cons event events ih =>
    rw [List.map_cons, List.nodup_cons] at hNodup
    rw [List.map_cons, List.mem_cons] at hSlot
    by_cases hEvent : event.slot = slot
    · have hNone : (events.filter fun event => event.slot = slot) = [] := by
        rw [List.filter_eq_nil_iff]
        intro other hOther hSame
        refine hNodup.1 (List.mem_map.mpr ⟨other, hOther, ?_⟩)
        rw [of_decide_eq_true hSame, hEvent]
      refine ⟨event, hEach event List.mem_cons_self, hEvent, ?_⟩
      rw [List.filter_cons_of_pos (by simpa using hEvent), hNone]
    · have hRest : slot ∈ events.map ProcessEvent.slot := by
        rcases hSlot with hSlot | hSlot
        · exact absurd hSlot.symm hEvent
        · exact hSlot
      have hEachRest := fun other hOther => hEach other (List.mem_cons_of_mem event hOther)
      obtain ⟨found, hFound⟩ := ih hEachRest hNodup.2 hRest
      refine ⟨found, hFound.1, hFound.2.1, ?_⟩
      rw [List.filter_cons_of_neg (by simpa using hEvent), hFound.2.2]

theorem IsRound.filter_of_notMem {holds : ProcessEvent → Prop} {slots : List Nat}
    {events : List ProcessEvent} (h : IsRound holds slots events) {slot : Nat}
    (hSlot : slot ∉ slots) : (events.filter fun event => event.slot = slot) = [] := by
  rw [List.filter_eq_nil_iff]
  intro event hEvent hSame
  apply hSlot
  rw [← of_decide_eq_true hSame]
  exact h.slot_mem hEvent

section Rounds

variable (supervisor : Supervisor)

theorem wait_status (slot : Nat) (moment : Duration) :
    (supervisor.wait slot moment).1 =
      (supervisor.waitsLeft slot).head?.bind fun answer => answer.outcome.status? := by
  unfold wait
  cases supervisor.waitsLeft slot with
  | nil => rfl
  | cons answer rest => rfl

theorem events_wait (slot : Nat) (moment : Duration) :
    ∃ event, (supervisor.wait slot moment).2.events = event :: supervisor.events ∧
      event.slot = slot ∧
      event.call = .wait ⟨moment.nanoseconds - supervisor.clock.nanoseconds⟩ :=
  ⟨_, rfl, rfl, rfl⟩

theorem waitsLeft_wait (slot : Nat) (moment : Duration) (other : Nat) :
    (supervisor.wait slot moment).2.waitsLeft other =
      if slot = other then (supervisor.waitsLeft other).drop 1 else supervisor.waitsLeft other := by
  unfold wait waitsLeft
  dsimp only
  rw [List.getElem?_modify]
  cases supervisor.processes[other]? with
  | none => simp
  | some process => split <;> rfl

theorem signal_eq (call : ProcessCall) (slot : Nat) :
    ∃ event, supervisor.signal call slot =
        { supervisor with events := event :: supervisor.events } ∧
      event.slot = slot ∧ event.call = call ∧ event.time = supervisor.clock :=
  ⟨_, rfl, rfl, rfl, rfl⟩

/-- Whether the processes in some slots have answered so many waits. -/
def HasAnswered (processes : List ProcessScript) (rounds : Nat) (slots : List Nat) : Prop :=
  ∀ slot ∈ slots, ∀ n, (supervisor.waitsLeft slot)[n]? = answerAt processes slot (rounds + n)

theorem hasAnswered_new (processes : List ProcessScript) (clock : Duration) (slots : List Nat) :
    (new processes clock).HasAnswered processes 0 slots := by
  intro slot _ n
  rw [Nat.zero_add]
  rfl

variable {supervisor} {processes : List ProcessScript} {rounds : Nat} {slots : List Nat}

theorem HasAnswered.subset (h : supervisor.HasAnswered processes rounds slots) {fewer : List Nat}
    (hFewer : fewer ⊆ slots) : supervisor.HasAnswered processes rounds fewer :=
  fun slot hSlot => h slot (hFewer hSlot)

theorem HasAnswered.wait_status {slot : Nat} {rest : List Nat}
    (h : supervisor.HasAnswered processes rounds (slot :: rest)) (moment : Duration) :
    (supervisor.wait slot moment).1 = returnedAt processes slot rounds := by
  rw [Supervisor.wait_status, List.head?_eq_getElem?, h slot List.mem_cons_self 0]
  rfl

theorem HasAnswered.wait {slot : Nat} {rest : List Nat}
    (h : supervisor.HasAnswered processes rounds (slot :: rest)) (hSlot : slot ∉ rest)
    (moment : Duration) :
    (supervisor.wait slot moment).2.HasAnswered processes rounds rest ∧
      (supervisor.wait slot moment).2.HasAnswered processes (rounds + 1) [slot] := by
  constructor
  · intro other hOther n
    have hOtherSlot : slot ≠ other := fun hSame => hSlot (hSame ▸ hOther)
    rw [waitsLeft_wait, if_neg hOtherSlot]
    exact h other (List.mem_cons_of_mem slot hOther) n
  · intro other hOther n
    obtain rfl := List.mem_singleton.mp hOther
    rw [waitsLeft_wait, if_pos rfl, List.getElem?_drop, h other List.mem_cons_self, Nat.add_assoc]

theorem clock_le_wait (slot : Nat) (moment : Duration) :
    supervisor.clock.nanoseconds ≤ (supervisor.wait slot moment).2.clock.nanoseconds :=
  Nat.le_add_right _ _

theorem clock_wait_le (slot : Nat) (moment : Duration) :
    (supervisor.wait slot moment).2.clock.nanoseconds ≤
      max supervisor.clock.nanoseconds moment.nanoseconds := by
  simp only [Supervisor.wait]
  omega

theorem cutShort_or_le_clock_wait {slot : Nat} {rest : List Nat}
    (h : supervisor.HasAnswered processes rounds (slot :: rest)) (moment : Duration)
    (hNone : returnedAt processes slot rounds = none) :
    (∃ answer, answerAt processes slot rounds = some answer ∧
        answer.CutShort ⟨moment.nanoseconds - supervisor.clock.nanoseconds⟩) ∨
      moment.nanoseconds ≤ (supervisor.wait slot moment).2.clock.nanoseconds := by
  have hFirst := h slot List.mem_cons_self 0
  rw [Nat.add_zero] at hFirst
  rw [returnedAt, ← hFirst] at hNone
  rw [← hFirst]
  simp only [Supervisor.wait]
  cases hLeft : supervisor.waitsLeft slot with
  | nil =>
    right
    simp only [List.headD_nil, Nat.min_self]
    omega
  | cons answer answers =>
    rw [hLeft] at hNone
    simp only [List.getElem?_cons_zero, Option.bind_some, List.headD_cons, Option.some.injEq,
      exists_eq_left'] at hNone ⊢
    cases hOutcome : answer.outcome with
    | exited status =>
      rw [hOutcome] at hNone
      cases hNone
    | fault reason => exact .inl (.inl (by rw [hOutcome]; rfl))
    | running =>
      by_cases hEarly : answer.takes.nanoseconds <
          moment.nanoseconds - supervisor.clock.nanoseconds
      · exact .inl (.inr ⟨hOutcome, hEarly⟩)
      · right
        omega

/-- A wait of a round: one that tells nothing was cut short or went on until its moment, which has
come when the round is over. -/
def IsWait (processes : List ProcessScript) (rounds : Nat) (moments : Nat → Duration)
    (last : Duration) (event : ProcessEvent) : Prop :=
  ∃ timeout, event.call = .wait timeout ∧ (returnedAt processes event.slot rounds = none →
    (∃ answer, answerAt processes event.slot rounds = some answer ∧ answer.CutShort timeout) ∨
      (moments event.slot).nanoseconds ≤ last.nanoseconds)

theorem IsWait.mono {moments : Nat → Duration} {last later : Duration} {event : ProcessEvent}
    (h : IsWait processes rounds moments last event)
    (hLater : last.nanoseconds ≤ later.nanoseconds) :
    IsWait processes rounds moments later event := by
  obtain ⟨timeout, hCall, hNone⟩ := h
  refine ⟨timeout, hCall, fun hReturned => ?_⟩
  rcases hNone hReturned with hShort | hMoment
  · exact .inl hShort
  · exact .inr (Nat.le_trans hMoment hLater)

/-- What a round of waits comes to: the statuses of its processes, each of which has one answer
less, and one wait for each of them. -/
structure WaitsOnce (processes : List ProcessScript) (rounds : Nat) (moments : Nat → Duration)
    (slots : List Nat) (before : Supervisor)
    (waited : List (Nat × Option ExitStatus) × Supervisor) : Prop where
  statuses : waited.1 = slots.map fun slot => (slot, returnedAt processes slot rounds)
  answered : waited.2.HasAnswered processes (rounds + 1) slots
  events : ∃ events, waited.2.events.reverse = before.events.reverse ++ events ∧
    IsRound (IsWait processes rounds moments waited.2.clock) slots events

theorem waitsLeft_waitEach {moments : Nat → Duration} {slot : Nat} (hSlot : slot ∉ slots) :
    (supervisor.waitEach moments slots).2.waitsLeft slot = supervisor.waitsLeft slot := by
  induction slots generalizing supervisor with
  | nil => rfl
  | cons first rest ih =>
    rw [List.mem_cons, not_or] at hSlot
    have hFirst := supervisor.waitsLeft_wait first (moments first) slot
    rw [if_neg (Ne.symm hSlot.1)] at hFirst
    exact (ih hSlot.2).trans hFirst

theorem clock_le_waitEach (moments : Nat → Duration) :
    supervisor.clock.nanoseconds ≤
      (supervisor.waitEach moments slots).2.clock.nanoseconds := by
  induction slots generalizing supervisor with
  | nil => exact Nat.le_refl _
  | cons slot rest ih => exact Nat.le_trans (clock_le_wait slot (moments slot)) ih

/-- However many processes are waited for, they share the moment at which the waiting ends. -/
theorem clock_waitEach_le (moment : Duration) :
    (supervisor.waitEach (fun _ => moment) slots).2.clock.nanoseconds ≤
      max supervisor.clock.nanoseconds moment.nanoseconds := by
  induction slots generalizing supervisor with
  | nil => exact Nat.le_max_left _ _
  | cons slot rest ih =>
    have hWait := supervisor.clock_wait_le slot moment
    have hRest := @ih (supervisor.wait slot moment).2
    have hWhole : (supervisor.waitEach (fun _ => moment) (slot :: rest)).2 =
        ((supervisor.wait slot moment).2.waitEach (fun _ => moment) rest).2 := rfl
    rw [hWhole]
    omega

theorem waitEach_waitsOnce (h : supervisor.HasAnswered processes rounds slots)
    (hNodup : slots.Nodup) (moments : Nat → Duration) :
    WaitsOnce processes rounds moments slots supervisor (supervisor.waitEach moments slots) := by
  induction slots generalizing supervisor with
  | nil => exact ⟨rfl, List.forall_mem_nil _, [], (List.append_nil _).symm, isRound_nil _⟩
  | cons slot rest ih =>
    rw [List.nodup_cons] at hNodup
    obtain ⟨hRest, hSlot⟩ := h.wait hNodup.1 (moments slot)
    have hStatus := h.wait_status (moments slot)
    have hCutShort := supervisor.cutShort_or_le_clock_wait h (moments slot)
    obtain ⟨hStatuses, hAnswered, events, hEvents, hRound⟩ := ih hRest hNodup.2
    have hLater := @clock_le_waitEach (supervisor.wait slot (moments slot)).2 rest moments
    obtain ⟨event, hWait, hEventSlot, hCall⟩ := supervisor.events_wait slot (moments slot)
    refine ⟨?_, ?_, event :: events, ?_, hRound.cons hEventSlot ⟨_, hCall, fun hNone => ?_⟩⟩
    · rw [List.map_cons, ← hStatuses, ← hStatus]
      rfl
    · intro other hOther
      rcases List.mem_cons.mp hOther with rfl | hOther
      · intro n
        rw [← hSlot other (List.mem_singleton_self other) n]
        exact congrArg (fun answers => answers[n]?) (waitsLeft_waitEach hNodup.1)
      · exact hAnswered other hOther
    · rw [hWait, List.reverse_cons, List.append_assoc] at hEvents
      exact hEvents
    · rw [hEventSlot] at hNone ⊢
      rcases hCutShort hNone with hShort | hMoment
      · exact .inl hShort
      · exact .inr (Nat.le_trans hMoment hLater)

theorem signals_spec (call : ProcessCall) :
    ∃ events, (slots.foldl (fun supervisor slot => supervisor.signal call slot) supervisor) =
        { supervisor with events := events.reverse ++ supervisor.events } ∧
      IsRound (fun event => event.call = call ∧ event.time = supervisor.clock) slots events := by
  induction slots generalizing supervisor with
  | nil => exact ⟨[], rfl, isRound_nil _⟩
  | cons slot rest ih =>
    obtain ⟨event, hSignal, hSlot, hCall, hTime⟩ := supervisor.signal_eq call slot
    obtain ⟨events, hFold, hRound⟩ := @ih (supervisor.signal call slot)
    rw [hSignal] at hFold hRound
    refine ⟨event :: events, ?_, hRound.cons hSlot ⟨hCall, hTime⟩⟩
    rw [List.foldl_cons, hSignal, hFold, List.reverse_cons, List.append_assoc]
    rfl

/-- What a later round comes to: as a round of waits, with a signal to each process before them. -/
structure SignalsOnce (processes : List ProcessScript) (rounds : Nat) (call : ProcessCall)
    (grace : Duration) (slots : List Nat) (before : Supervisor)
    (waited : List (Nat × Option ExitStatus) × Supervisor) : Prop where
  statuses : waited.1 = slots.map fun slot => (slot, returnedAt processes slot rounds)
  answered : waited.2.HasAnswered processes (rounds + 1) slots
  events : ∃ signals waits, waited.2.events.reverse = before.events.reverse ++ signals ++ waits ∧
    IsRound (fun event => event.call = call ∧ event.time = before.clock) slots signals ∧
    IsRound (IsWait processes rounds
      (fun _ => ⟨before.clock.nanoseconds + grace.nanoseconds⟩) waited.2.clock) slots waits
  clock : waited.2.clock.nanoseconds ≤ before.clock.nanoseconds + grace.nanoseconds

theorem escalate_signalsOnce (h : supervisor.HasAnswered processes rounds slots)
    (hNodup : slots.Nodup) (call : ProcessCall) (grace : Duration) :
    SignalsOnce processes rounds call grace slots supervisor
      (supervisor.escalate call grace slots) := by
  obtain ⟨signals, hFold, hSignals⟩ := @signals_spec supervisor slots call
  have hAnswers : HasAnswered { supervisor with events := signals.reverse ++ supervisor.events }
      processes rounds slots := h
  unfold escalate
  rw [hFold]
  obtain ⟨hStatuses, hAnswered, waits, hEvents, hWaits⟩ := waitEach_waitsOnce hAnswers hNodup
    fun _ => ⟨supervisor.clock.nanoseconds + grace.nanoseconds⟩
  refine ⟨hStatuses, hAnswered, ⟨signals, waits, ?_, hSignals, hWaits⟩, ?_⟩
  · rw [hEvents, List.reverse_append, List.reverse_reverse]
  · refine Nat.le_trans (clock_waitEach_le _) ?_
    dsimp only
    omega

theorem stillRunning_statuses (status : Nat → Option ExitStatus) :
    stillRunning (slots.map fun slot => (slot, status slot)) =
      slots.filter fun slot => (status slot).isNone := by
  rw [stillRunning, List.filter_map, List.map_map]
  exact List.map_id _

theorem length_settle (resolution : ExitStatus → Resolution) (resolutions : List Resolution)
    (waited : List (Nat × Option ExitStatus)) :
    (settle resolution resolutions waited).length = resolutions.length := by
  induction waited generalizing resolutions with
  | nil => rfl
  | cons entry rest ih =>
    refine (ih _).trans ?_
    dsimp only
    split
    · exact List.length_set
    · rfl

theorem getElem?_settle (resolution : ExitStatus → Resolution) (resolutions : List Resolution)
    (status : Nat → Option ExitStatus) (slot : Nat) :
    (settle resolution resolutions (slots.map fun slot => (slot, status slot)))[slot]? =
      resolutions[slot]?.map fun old =>
        if slot ∈ slots then ((status slot).map resolution).getD old else old := by
  induction slots generalizing resolutions with
  | nil => simp [settle]
  | cons first rest ih =>
    have hStep : settle resolution resolutions
        ((first :: rest).map fun slot => (slot, status slot)) =
          settle resolution
            ((status first).elim resolutions fun ended =>
              resolutions.set first (resolution ended))
            (rest.map fun slot => (slot, status slot)) := by
      rw [List.map_cons]
      cases status first <;> rfl
    rw [hStep, ih]
    cases hStatus : status first with
    | none =>
      by_cases hSlot : slot = first
      · subst hSlot
        simp [hStatus]
      · simp [hSlot]
    | some ended =>
      by_cases hSlot : slot = first
      · subst hSlot
        rw [hStatus, Option.elim_some, List.getElem?_set_self']
        cases resolutions[slot]? <;> simp
      · simp [hSlot, Ne.symm hSlot]

end Rounds

/-- The course of a supervision: its five rounds of calls, one behind the other, and the times at
which the later ones start. -/
structure Course (processes : List ProcessScript) (deadlines : Nat → Duration) (grace : Grace)
    (firstEnd : Duration) (after : Supervisor) where
  waits : List ProcessEvent
  terminations : List ProcessEvent
  secondWaits : List ProcessEvent
  secondEnd : Duration
  kills : List ProcessEvent
  lastWaits : List ProcessEvent
  events : after.events.reverse = waits ++ terminations ++ secondWaits ++ kills ++ lastWaits
  isRound_waits : IsRound (IsWait processes 0 deadlines firstEnd) (remaining processes 0) waits
  isRound_terminations : IsRound (fun event => event.call = .terminate ∧ event.time = firstEnd)
    (remaining processes 1) terminations
  isRound_secondWaits : IsRound (IsWait processes 1
    (fun _ => ⟨firstEnd.nanoseconds + grace.terminate.nanoseconds⟩) secondEnd)
    (remaining processes 1) secondWaits
  isRound_kills : IsRound (fun event => event.call = .kill ∧ event.time = secondEnd)
    (remaining processes 2) kills
  isRound_lastWaits : IsRound (IsWait processes 2
    (fun _ => ⟨secondEnd.nanoseconds + grace.kill.nanoseconds⟩) after.clock)
    (remaining processes 2) lastWaits
  secondEnd_le : secondEnd.nanoseconds ≤ firstEnd.nanoseconds + grace.terminate.nanoseconds
  clock_le : after.clock.nanoseconds ≤ secondEnd.nanoseconds + grace.kill.nanoseconds

/-- What becomes of the process in a slot, by what its waits return. -/
def resolutionOf (processes : List ProcessScript) (slot : Nat) : Resolution :=
  match returnedAt processes slot 0 with
  | some status => .exited status
  | none =>
    if (returnedAt processes slot 1).isSome then .terminated
    else if (returnedAt processes slot 2).isSome then .killed
    else .unresponsive

/-- The three rounds together set every resolution, in whatever slots they find processes ended. -/
theorem getElem?_settled {processes : List ProcessScript} {slot : Nat}
    (hSlot : slot < processes.length) :
    let waited := fun rounds =>
      (remaining processes rounds).map fun slot => (slot, returnedAt processes slot rounds)
    (settle (fun _ => .killed) (settle (fun _ => .terminated)
      (settle .exited (List.replicate processes.length .unresponsive) (waited 0)) (waited 1))
        (waited 2))[slot]? = some (resolutionOf processes slot) := by
  dsimp only
  have hUnknown : (List.replicate processes.length Resolution.unresponsive)[slot]? =
      some .unresponsive := List.getElem?_replicate_of_lt hSlot
  have hStarted : slot ∈ remaining processes 0 := List.mem_range.mpr hSlot
  have hOverdue := mem_remaining_one hSlot
  have hSurvives := mem_remaining_two hSlot
  rw [getElem?_settle, getElem?_settle, getElem?_settle, hUnknown]
  cases hFirst : returnedAt processes slot 0 with
  | some status => simp [hStarted, hOverdue, hSurvives, hFirst, resolutionOf]
  | none =>
    cases hSecond : returnedAt processes slot 1 with
    | some status => simp [hStarted, hOverdue, hSurvives, hFirst, hSecond, resolutionOf]
    | none =>
      cases hThird : returnedAt processes slot 2 <;>
        simp [hStarted, hOverdue, hSurvives, hFirst, hSecond, hThird, resolutionOf]

section Rounds

variable (processes : List ProcessScript) (start : Duration) (deadlines : Nat → Duration)
  (grace : Grace)

theorem awaitDeadlines_waitsOnce :
    WaitsOnce processes 0 deadlines (remaining processes 0) (new processes start)
      ((new processes start).awaitDeadlines deadlines) :=
  waitEach_waitsOnce (hasAnswered_new processes start _) (nodup_remaining processes 0) deadlines

theorem awaitEach_course :
    ((new processes start).awaitEach deadlines grace).1.length = processes.length ∧
    (∀ slot < processes.length, ((new processes start).awaitEach deadlines grace).1[slot]? =
      some (resolutionOf processes slot)) ∧
    Nonempty (Course processes deadlines grace
      ((new processes start).awaitDeadlines deadlines).2.clock
      ((new processes start).awaitEach deadlines grace).2) := by
  have hFirst := awaitDeadlines_waitsOnce processes start deadlines
  unfold awaitEach
  generalize (new processes start).awaitDeadlines deadlines = first at hFirst ⊢
  obtain ⟨firstStatuses, afterFirst⟩ := first
  obtain ⟨rfl, hAnswered, waits, hWaitEvents, hWaits⟩ := hFirst
  dsimp only at hAnswered hWaitEvents hWaits ⊢
  rw [stillRunning_statuses, ← remaining]
  have hSecond := escalate_signalsOnce (hAnswered.subset (remaining_subset processes 0))
    (nodup_remaining processes 1) .terminate grace.terminate
  generalize afterFirst.escalate .terminate grace.terminate (remaining processes 1) = second
    at hSecond ⊢
  obtain ⟨secondStatuses, afterSecond⟩ := second
  obtain ⟨rfl, hAnsweredTwice, ⟨terminations, secondWaits, hSecondEvents, hTerminations,
    hSecondWaits⟩, hSecondClock⟩ := hSecond
  dsimp only at hAnsweredTwice hSecondEvents hSecondWaits hSecondClock ⊢
  rw [stillRunning_statuses, ← remaining]
  have hThird := escalate_signalsOnce (hAnsweredTwice.subset (remaining_subset processes 1))
    (nodup_remaining processes 2) .kill grace.kill
  generalize afterSecond.escalate .kill grace.kill (remaining processes 2) = third at hThird ⊢
  obtain ⟨thirdStatuses, after⟩ := third
  obtain ⟨rfl, -, ⟨kills, lastWaits, hThirdEvents, hKills, hLastWaits⟩, hThirdClock⟩ := hThird
  dsimp only at hThirdEvents hLastWaits hThirdClock ⊢
  refine ⟨?_, fun slot hSlot => ?_, ⟨waits, terminations, secondWaits, afterSecond.clock, kills,
    lastWaits, ?_, hWaits, hTerminations, hSecondWaits, hKills, hLastWaits, hSecondClock,
    hThirdClock⟩⟩
  · rw [length_settle, length_settle, length_settle, List.length_replicate]
    rfl
  · exact getElem?_settled hSlot
  · rw [hThirdEvents, hSecondEvents, hWaitEvents]
    rfl

end Rounds

namespace Course

variable {processes : List ProcessScript} {deadlines : Nat → Duration} {grace : Grace}
  {firstEnd : Duration} {after : Supervisor}

theorem callsOn_eq (course : Course processes deadlines grace firstEnd after) (slot : Nat) :
    after.callsOn slot =
      ([course.waits, course.terminations, course.secondWaits, course.kills,
        course.lastWaits].flatMap fun events =>
          events.filter fun event => event.slot = slot).map ProcessEvent.call := by
  rw [callsOn, course.events]
  simp

theorem callsOn_cases (course : Course processes deadlines grace firstEnd after) {slot : Nat}
    (hSlot : slot ∈ remaining processes 0) :
    ∃ first, IsWait processes 0 deadlines firstEnd first ∧ first.slot = slot ∧
      (slot ∉ remaining processes 1 ∧ after.callsOn slot = [first.call] ∨
        slot ∈ remaining processes 1 ∧ ∃ second, IsWait processes 1
          (fun _ => ⟨firstEnd.nanoseconds + grace.terminate.nanoseconds⟩) course.secondEnd second ∧
          second.slot = slot ∧
          (slot ∉ remaining processes 2 ∧
              after.callsOn slot = [first.call, .terminate, second.call] ∨
            slot ∈ remaining processes 2 ∧ ∃ timeout,
              after.callsOn slot =
                [first.call, .terminate, second.call, .kill, .wait timeout])) := by
  have hCalls := course.callsOn_eq slot
  simp only [List.flatMap_cons, List.flatMap_nil, List.append_nil] at hCalls
  obtain ⟨first, hFirst, hFirstSlot, hFilter⟩ :=
    course.isRound_waits.filter_of_mem (nodup_remaining processes 0) hSlot
  rw [hFilter] at hCalls
  refine ⟨first, hFirst, hFirstSlot, ?_⟩
  by_cases hOverdue : slot ∈ remaining processes 1
  · right
    obtain ⟨termination, hTermination, -, hFilter⟩ :=
      course.isRound_terminations.filter_of_mem (nodup_remaining processes 1) hOverdue
    rw [hFilter] at hCalls
    obtain ⟨second, hSecond, hSecondSlot, hFilter⟩ :=
      course.isRound_secondWaits.filter_of_mem (nodup_remaining processes 1) hOverdue
    rw [hFilter] at hCalls
    refine ⟨hOverdue, second, hSecond, hSecondSlot, ?_⟩
    by_cases hSurvives : slot ∈ remaining processes 2
    · right
      obtain ⟨kill, hKill, -, hFilter⟩ :=
        course.isRound_kills.filter_of_mem (nodup_remaining processes 2) hSurvives
      rw [hFilter] at hCalls
      obtain ⟨last, ⟨timeout, hLast, -⟩, -, hFilter⟩ :=
        course.isRound_lastWaits.filter_of_mem (nodup_remaining processes 2) hSurvives
      rw [hFilter] at hCalls
      refine ⟨hSurvives, timeout, hCalls.trans ?_⟩
      simp [hTermination.1, hKill.1, hLast]
    · left
      rw [course.isRound_kills.filter_of_notMem hSurvives,
        course.isRound_lastWaits.filter_of_notMem hSurvives] at hCalls
      refine ⟨hSurvives, hCalls.trans ?_⟩
      simp [hTermination.1]
  · left
    have hSurvives : slot ∉ remaining processes 2 :=
      fun hMem => hOverdue (remaining_subset processes 1 hMem)
    rw [course.isRound_terminations.filter_of_notMem hOverdue,
      course.isRound_secondWaits.filter_of_notMem hOverdue,
      course.isRound_kills.filter_of_notMem hSurvives,
      course.isRound_lastWaits.filter_of_notMem hSurvives] at hCalls
    exact ⟨hOverdue, hCalls⟩

end Course

end Supervisor

end DeviceRig
