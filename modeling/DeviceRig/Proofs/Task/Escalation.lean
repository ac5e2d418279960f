import DeviceRig.Proofs.Task.Rounds

/-!
# Escalation on overdue processes

A process gets a signal only if it did not end before, and what it gets depends
on its own answers alone. The batch as a whole is held to one deadline and two
graces, however many processes there are.
-/
namespace DeviceRig.Supervisor

/-- What becomes of the process in a slot and the calls that it gets until then, both by what its
waits return. -/
structure Escalated (processes : List ProcessScript) (slot : Nat) (resolution : Resolution)
    (calls : List ProcessCall) : Prop where
  exited : ∀ status, resolution = .exited status ↔ returnedAt processes slot 0 = some status
  terminated : resolution = .terminated ↔
    returnedAt processes slot 0 = none ∧ (returnedAt processes slot 1).isSome
  killed : resolution = .killed ↔ returnedAt processes slot 0 = none ∧
    returnedAt processes slot 1 = none ∧ (returnedAt processes slot 2).isSome
  unresponsive : resolution = .unresponsive ↔ returnedAt processes slot 0 = none ∧
    returnedAt processes slot 1 = none ∧ returnedAt processes slot 2 = none
  noSignal : (returnedAt processes slot 0).isSome → ∃ timeout, calls = [.wait timeout]
  oneTermination : returnedAt processes slot 0 = none → (returnedAt processes slot 1).isSome →
    ∃ timeout later, calls = [.wait timeout, .terminate, .wait later]
  oneKill : returnedAt processes slot 0 = none → returnedAt processes slot 1 = none →
    ∃ timeout later last, calls =
      [.wait timeout, .terminate, .wait later, .kill, .wait last]

theorem Course.escalated {processes : List ProcessScript} {deadlines : Nat → Duration}
    {grace : Grace} {firstEnd : Duration} {after : Supervisor}
    (course : Course processes deadlines grace firstEnd after) {slot : Nat}
    (hSlot : slot < processes.length) :
    Escalated processes slot (resolutionOf processes slot) (after.callsOn slot) := by
  have hOverdue := mem_remaining_one hSlot
  have hSurvives := mem_remaining_two hSlot
  obtain ⟨first, ⟨timeout, hFirst, -⟩, -, hCalls⟩ :=
    course.callsOn_cases (List.mem_range.mpr hSlot)
  rw [hFirst] at hCalls
  cases hReturned : returnedAt processes slot 0 with
  | some status =>
    have hInTime : slot ∉ remaining processes 1 := by simp [hOverdue, hReturned]
    obtain ⟨-, hCalls⟩ := hCalls.resolve_right fun h => hInTime h.1
    constructor
    case noSignal => exact fun _ => ⟨timeout, hCalls⟩
    all_goals simp [resolutionOf, hReturned]
  | none =>
    obtain ⟨-, second, ⟨later, hSecond, -⟩, -, hCalls⟩ :=
      hCalls.resolve_left fun h => h.1 (hOverdue.mpr hReturned)
    rw [hSecond] at hCalls
    cases hAgain : returnedAt processes slot 1 with
    | some status =>
      have hEnded : slot ∉ remaining processes 2 := by simp [hSurvives, hAgain]
      obtain ⟨-, hCalls⟩ := hCalls.resolve_right fun h => hEnded h.1
      constructor
      case oneTermination => exact fun _ _ => ⟨timeout, later, hCalls⟩
      all_goals simp [resolutionOf, hReturned, hAgain]
    | none =>
      obtain ⟨-, last, hCalls⟩ :=
        hCalls.resolve_left fun h => h.1 (hSurvives.mpr ⟨hReturned, hAgain⟩)
      constructor
      case oneKill => exact fun _ _ => ⟨timeout, later, last, hCalls⟩
      all_goals
        cases hLast : returnedAt processes slot 2 <;>
          simp [resolutionOf, hReturned, hAgain, hLast]

/-- All processes are resolved in their order, each by its own answers. The calls on them come in
five rounds, each of which makes one call for each process that still runs. -/
theorem awaitEach_escalates (processes : List ProcessScript) (start : Duration)
    (deadlines : Nat → Duration) (grace : Grace) :
    let (resolutions, after) := (new processes start).awaitEach deadlines grace
    resolutions.length = processes.length ∧
    (∀ slot resolution, resolutions[slot]? = some resolution →
      Escalated processes slot resolution (after.callsOn slot)) ∧
    ∃ waits terminations secondWaits kills lastWaits,
      after.events.reverse = waits ++ terminations ++ secondWaits ++ kills ++ lastWaits ∧
      IsRound (fun event => ∃ timeout, event.call = .wait timeout) (remaining processes 0) waits ∧
      IsRound (fun event => event.call = .terminate) (remaining processes 1) terminations ∧
      IsRound (fun event => ∃ timeout, event.call = .wait timeout) (remaining processes 1)
        secondWaits ∧
      IsRound (fun event => event.call = .kill) (remaining processes 2) kills ∧
      IsRound (fun event => ∃ timeout, event.call = .wait timeout) (remaining processes 2)
        lastWaits := by
  obtain ⟨hLength, hResolutions, ⟨course⟩⟩ := awaitEach_course processes start deadlines grace
  dsimp only
  refine ⟨hLength, fun slot resolution hResolution => ?_, course.waits, course.terminations,
    course.secondWaits, course.kills, course.lastWaits, course.events, ?_, ?_, ?_, ?_, ?_⟩
  · have hSlot : slot < processes.length := by
      rw [← hLength]
      exact (List.getElem?_eq_some_iff.mp hResolution).1
    rw [hResolutions slot hSlot] at hResolution
    obtain rfl := Option.some.inj hResolution
    exact course.escalated hSlot
  · exact course.isRound_waits.mono fun event ⟨timeout, hCall, _⟩ => ⟨timeout, hCall⟩
  · exact course.isRound_terminations.mono fun event h => h.1
  · exact course.isRound_secondWaits.mono fun event ⟨timeout, hCall, _⟩ => ⟨timeout, hCall⟩
  · exact course.isRound_kills.mono fun event h => h.1
  · exact course.isRound_lastWaits.mono fun event ⟨timeout, hCall, _⟩ => ⟨timeout, hCall⟩

/-- The timeouts of the waits for the process in a slot, in order. -/
def timeoutsOn (supervisor : Supervisor) (slot : Nat) : List Duration :=
  (supervisor.callsOn slot).filterMap fun
    | .wait timeout => some timeout
    | .terminate | .kill => none

/-- Whether the wait of a number for the process in a slot failed, or gave up before its timeout. -/
def IsCutShort (processes : List ProcessScript) (after : Supervisor) (slot n : Nat) : Prop :=
  ∃ answer timeout, answerAt processes slot n = some answer ∧
    (after.timeoutsOn slot)[n]? = some timeout ∧ answer.CutShort timeout

namespace Course

variable {processes : List ProcessScript} {deadlines : Nat → Duration} {grace : Grace}
  {firstEnd : Duration} {after : Supervisor}

theorem cases_of_mem (course : Course processes deadlines grace firstEnd after)
    {event : ProcessEvent} (hEvent : event ∈ after.events) :
    (∃ timeout, event.call = .wait timeout) ∨
      (event.call = .terminate ∧ event.time = firstEnd ∧ event.slot ∈ remaining processes 1) ∨
      (event.call = .kill ∧ event.time = course.secondEnd ∧
        event.slot ∈ remaining processes 2) := by
  rw [← List.mem_reverse, course.events] at hEvent
  simp only [List.mem_append] at hEvent
  rcases hEvent with (((hWait | hTermination) | hWait) | hKill) | hWait
  · obtain ⟨timeout, hCall, -⟩ := course.isRound_waits.each event hWait
    exact .inl ⟨timeout, hCall⟩
  · obtain ⟨hCall, hTime⟩ := course.isRound_terminations.each event hTermination
    exact .inr (.inl ⟨hCall, hTime, course.isRound_terminations.slot_mem hTermination⟩)
  · obtain ⟨timeout, hCall, -⟩ := course.isRound_secondWaits.each event hWait
    exact .inl ⟨timeout, hCall⟩
  · obtain ⟨hCall, hTime⟩ := course.isRound_kills.each event hKill
    exact .inr (.inr ⟨hCall, hTime, course.isRound_kills.slot_mem hKill⟩)
  · obtain ⟨timeout, hCall, -⟩ := course.isRound_lastWaits.each event hWait
    exact .inl ⟨timeout, hCall⟩

/-- Requests to exit are made at the end of the first round, of the processes that still run. -/
theorem terminate_spec (course : Course processes deadlines grace firstEnd after)
    {event : ProcessEvent} (hEvent : event ∈ after.events) (hCall : event.call = .terminate) :
    event.time = firstEnd ∧ event.slot ∈ remaining processes 1 := by
  rcases course.cases_of_mem hEvent with ⟨timeout, hWait⟩ | ⟨-, hTerminated⟩ | ⟨hKill, -⟩
  · rw [hCall] at hWait
    cases hWait
  · exact hTerminated
  · rw [hCall] at hKill
    cases hKill

theorem kill_spec (course : Course processes deadlines grace firstEnd after)
    {event : ProcessEvent} (hEvent : event ∈ after.events) (hCall : event.call = .kill) :
    event.time = course.secondEnd ∧ event.slot ∈ remaining processes 2 := by
  rcases course.cases_of_mem hEvent with ⟨timeout, hWait⟩ | ⟨hTermination, -⟩ | ⟨-, hKilled⟩
  · rw [hCall] at hWait
    cases hWait
  · rw [hCall] at hTermination
    cases hTermination
  · exact hKilled

theorem deadline_le_or_isCutShort (course : Course processes deadlines grace firstEnd after)
    {slot : Nat} (hSlot : slot ∈ remaining processes 1) :
    (deadlines slot).nanoseconds ≤ firstEnd.nanoseconds ∨
      IsCutShort processes after slot 0 := by
  obtain ⟨first, ⟨timeout, hFirst, hLasts⟩, rfl, hCalls⟩ :=
    course.callsOn_cases (remaining_subset processes 0 hSlot)
  have hNone : returnedAt processes first.slot 0 = none := (mem_remaining_succ.mp hSlot).2
  rcases hLasts hNone with ⟨answer, hAnswer, hShort⟩ | hDeadline
  · right
    obtain ⟨-, second, -, -, hCalls⟩ := hCalls.resolve_left fun h => h.1 hSlot
    refine ⟨answer, timeout, hAnswer, ?_, hShort⟩
    rcases hCalls with ⟨-, hCalls⟩ | ⟨-, last, hCalls⟩
    · rw [timeoutsOn, hCalls, hFirst]
      rfl
    · rw [timeoutsOn, hCalls, hFirst]
      rfl
  · exact .inl hDeadline

/-- A process is killed when the grace is over, or after its second wait was cut short. -/
theorem grace_le_or_isCutShort (course : Course processes deadlines grace firstEnd after)
    {slot : Nat} (hSlot : slot ∈ remaining processes 2) :
    firstEnd.nanoseconds + grace.terminate.nanoseconds ≤ course.secondEnd.nanoseconds ∨
      IsCutShort processes after slot 1 := by
  have hOverdue := remaining_subset processes 1 hSlot
  obtain ⟨first, ⟨timeout, hFirst, -⟩, -, hCalls⟩ :=
    course.callsOn_cases (remaining_subset processes 0 hOverdue)
  obtain ⟨-, second, ⟨later, hSecond, hLasts⟩, rfl, hCalls⟩ :=
    hCalls.resolve_left fun h => h.1 hOverdue
  have hNone : returnedAt processes second.slot 1 = none :=
    (mem_remaining_succ.mp hSlot).2
  rcases hLasts hNone with ⟨answer, hAnswer, hShort⟩ | hGrace
  · right
    obtain ⟨-, last, hCalls⟩ := hCalls.resolve_left fun h => h.1 hSlot
    refine ⟨answer, later, hAnswer, ?_, hShort⟩
    rw [timeoutsOn, hCalls, hFirst, hSecond]
    rfl
  · exact .inl hGrace

end Course

/-- However many processes share a deadline, they are all done with when it and two graces are over,
counted from the start if that is later. No process is asked to exit before the deadline unless its
first wait was cut short, and none is killed before the grace is over, counted from the end of the
first round, unless its second wait was cut short. -/
theorem awaitAll_shares_time (processes : List ProcessScript) (start deadline : Duration)
    (grace : Grace) :
    let firstEnd := ((new processes start).awaitDeadlines fun _ => deadline).2.clock
    let after := ((new processes start).awaitAll deadline grace).2
    after.clock.nanoseconds ≤ max start.nanoseconds deadline.nanoseconds +
      grace.terminate.nanoseconds + grace.kill.nanoseconds ∧
    ∀ event ∈ after.events,
      (event.call = .terminate → deadline.nanoseconds ≤ event.time.nanoseconds ∨
        IsCutShort processes after event.slot 0) ∧
      (event.call = .kill →
        firstEnd.nanoseconds + grace.terminate.nanoseconds ≤ event.time.nanoseconds ∨
          IsCutShort processes after event.slot 1) := by
  obtain ⟨-, -, ⟨course⟩⟩ := awaitEach_course processes start (fun _ => deadline) grace
  have hFirst : ((new processes start).awaitDeadlines fun _ => deadline).2.clock.nanoseconds ≤
      max start.nanoseconds deadline.nanoseconds := clock_waitEach_le deadline
  have hSecond := course.secondEnd_le
  have hLast := course.clock_le
  dsimp only
  constructor
  · rw [awaitAll]
    omega
  · refine fun event hEvent => ⟨fun hCall => ?_, fun hCall => ?_⟩
    · obtain ⟨hTime, hSlot⟩ := course.terminate_spec hEvent hCall
      rw [hTime]
      exact course.deadline_le_or_isCutShort hSlot
    · obtain ⟨hTime, hSlot⟩ := course.kill_spec hEvent hCall
      rw [hTime]
      exact course.grace_le_or_isCutShort hSlot

end DeviceRig.Supervisor
