import DeviceRig.Proofs.Task.Reconciliation
import DeviceRig.Proofs.Task.ReportLines
import Mathlib.Logic.Relation
import Mathlib.Order.WellFounded

/-!
# Reports that arrive side by side

A batch launches its processes one after the other. Every process that runs
has a reader, which goes through the lines of its standard output and sends
the reports among them on two channels, one for results and one for errors.
Readers take their steps in any order, also while other processes have still
to be launched. When all processes were launched and waited for, first the
results are drained and then the errors; draining ends when no reader is left.
-/
namespace DeviceRig

open Json

namespace Arrivals

def append (arrivals more : Arrivals) : Arrivals :=
  ⟨arrivals.results ++ more.results, arrivals.errors ++ more.errors⟩

def carrying (index : Nat) (arrivals : Arrivals) : Arrivals :=
  ⟨arrivals.results.filter fun arrival => arrival.1 = index,
    arrivals.errors.filter fun arrival => arrival.1 = index⟩

def size (arrivals : Arrivals) : Nat :=
  arrivals.results.length + arrivals.errors.length

theorem append_add (arrivals more : Arrivals) (report : TaskReport) :
    arrivals.append (more.add report) = (arrivals.append more).add report := by
  cases report with
  | result index value => simp [append, add]
  | failed index failure => simp [append, add]

theorem append_addAll (arrivals more : Arrivals) (reports : List TaskReport) :
    arrivals.append (more.addAll reports) = (arrivals.append more).addAll reports := by
  induction reports generalizing more with
  | nil => rfl
  | cons report rest ih => exact (ih (more.add report)).trans (by rw [append_add]; rfl)

theorem addAll_append (arrivals : Arrivals) (reports more : List TaskReport) :
    arrivals.addAll (reports ++ more) = (arrivals.addAll reports).addAll more :=
  List.foldl_append

theorem size_addAll (arrivals : Arrivals) (reports : List TaskReport) :
    (arrivals.addAll reports).size = arrivals.size + reports.length := by
  induction reports generalizing arrivals with
  | nil => rfl
  | cons report rest ih =>
    have hFirst : (arrivals.add report).size = arrivals.size + 1 := by
      cases report with
      | result index value => simp [add, size, Nat.add_right_comm]
      | failed index failure => simp [add, size, Nat.add_assoc]
    have hRest := ih (arrivals.add report)
    rw [hFirst] at hRest
    rw [List.length_cons, addAll, List.foldl_cons]
    exact hRest.trans (by omega)

theorem carrying_add (arrivals : Arrivals) (report : TaskReport) (i : Nat) :
    (arrivals.add report).carrying i =
      if report.index = i then (arrivals.carrying i).add report else arrivals.carrying i := by
  cases report with
  | result index value =>
    by_cases hIndex : index = i <;> simp [carrying, add, TaskReport.index, hIndex]
  | failed index failure =>
    by_cases hIndex : index = i <;> simp [carrying, add, TaskReport.index, hIndex]

theorem carrying_addAll (arrivals : Arrivals) (reports : List TaskReport) (i : Nat) :
    (arrivals.addAll reports).carrying i =
      (arrivals.carrying i).addAll (reports.filter fun report => report.index = i) := by
  induction reports generalizing arrivals with
  | nil => rfl
  | cons report rest ih =>
    have hRest := ih (arrivals.add report)
    rw [carrying_add] at hRest
    by_cases hIndex : report.index = i
    · rw [if_pos hIndex] at hRest
      rw [List.filter_cons_of_pos (by simpa using hIndex)]
      exact hRest
    · rw [if_neg hIndex] at hRest
      rw [List.filter_cons_of_neg (by simpa using hIndex)]
      exact hRest

theorem lookup_filter {Item : Type} (arrivals : List (Nat × Item)) (i : Nat) :
    (arrivals.filter fun arrival => arrival.1 = i).lookup i = arrivals.lookup i := by
  induction arrivals with
  | nil => rfl
  | cons arrival rest ih =>
    obtain ⟨index, item⟩ := arrival
    by_cases hIndex : index = i
    · subst hIndex
      rw [List.filter_cons_of_pos (by simp), List.lookup_cons_self, List.lookup_cons_self]
    · rw [List.filter_cons_of_neg (by simpa using hIndex), ih, List.lookup_cons,
        beq_false_of_ne (Ne.symm hIndex)]

theorem slot_carrying (arrivals : Arrivals) (i : Nat) :
    (arrivals.carrying i).slot i = arrivals.slot i := by
  rw [slot, slot, carrying, lookup_filter, lookup_filter]

theorem reconcile_of_slots {arrivals : Arrivals} {count : Nat}
    {slots : List (TaskResult × Option TaskFailure)} (hLength : slots.length = count)
    (hSlots : ∀ i < count, slots[i]? = some (arrivals.slot i)) :
    arrivals.reconcile count = ⟨slots.map Prod.fst, slots.map Prod.snd⟩ := by
  rw [reconcile_eq, eq_map_range hLength hSlots, List.map_map, List.map_map]
  rfl

theorem reconcile_congr {arrivals others : Arrivals} {count : Nat}
    (h : ∀ i < count, arrivals.slot i = others.slot i) :
    arrivals.reconcile count = others.reconcile count := by
  have hSlots : ∀ i ∈ List.range count, arrivals.slot i = others.slot i :=
    fun i hi => h i (List.mem_range.mp hi)
  rw [reconcile_eq, reconcile_eq,
    List.map_congr_left fun i hi => congrArg Prod.fst (hSlots i hi),
    List.map_congr_left fun i hi => congrArg Prod.snd (hSlots i hi)]

end Arrivals

/-- What comes of launching a process: its whole standard output, or an error. -/
inductive TaskSource where
  | stream (output : List UInt8)
  | refused (error : BatchError)

namespace TaskSource

def reports (index : Nat) : TaskSource → List TaskReport
  | .stream output => TaskReport.ofLines index (Text.byteLines output)
  | .refused error => [.failed index ⟨Launch.spawnKind, error.message⟩]

def slot (index : Nat) (source : TaskSource) : TaskResult × Option TaskFailure :=
  (Arrivals.empty.addAll (source.reports index)).slot index

theorem index_of_mem_reports {index : Nat} {source : TaskSource} {report : TaskReport}
    (h : report ∈ source.reports index) : report.index = index := by
  cases source with
  | stream output => exact TaskReport.index_of_mem_ofLines h
  | refused error =>
    obtain rfl := List.mem_singleton.mp h
    rfl

end TaskSource

inductive TaskState where
  | waiting (source : TaskSource)
  | reading (unread : List (List UInt8))

namespace TaskState

def isWaiting : TaskState → Bool
  | .waiting _ => true
  | .reading _ => false

def unsent (index : Nat) : TaskState → List TaskReport
  | .waiting source => source.reports index
  | .reading lines => TaskReport.ofLines index lines

/-- A bound for the steps that a task still causes: every line may be read and may bring a report
that is taken. -/
def work : TaskState → Nat
  | .waiting (.stream output) => 2 * (Text.byteLines output).length + 1
  | .waiting (.refused _) => 2
  | .reading lines => 2 * lines.length

def workOfAll : List TaskState → Nat
  | [] => 0
  | task :: rest => task.work + workOfAll rest

theorem workOfAll_set {tasks : List TaskState} {n : Nat} {old : TaskState}
    (hTask : tasks[n]? = some old) (state : TaskState) :
    workOfAll (tasks.set n state) + old.work = workOfAll tasks + state.work := by
  induction tasks generalizing n with
  | nil => cases hTask
  | cons first rest ih =>
    cases n with
    | zero =>
      cases hTask
      simp only [List.set_cons_zero, workOfAll]
      omega
    | succ n =>
      have hRest := ih (n := n) hTask
      simp only [List.set_cons_succ, workOfAll]
      omega

end TaskState

inductive BatchPhase where
  | launching
  | results
  | errors
  | drained

def BatchPhase.left : BatchPhase → Nat
  | .launching => 3
  | .results => 2
  | .errors => 1
  | .drained => 0

/-- A batch while it runs: how far it is, its tasks by index, what was sent and not taken, and what
was taken. -/
structure BatchRun where
  phase : BatchPhase
  launched : Nat
  tasks : List TaskState
  queued : Arrivals
  taken : Arrivals

namespace BatchRun

def start (sources : List TaskSource) : BatchRun :=
  ⟨.launching, 0, sources.map .waiting, .empty, .empty⟩

/-- The task of an index sends reports and then stands somewhere else. -/
def send (run : BatchRun) (index : Nat) (sent : List TaskReport) (state : TaskState) : BatchRun :=
  { run with tasks := run.tasks.set index state, queued := run.queued.addAll sent }

/-- The steps of the launching thread, which also drains the channels, and of the readers. -/
inductive Step : BatchRun → BatchRun → Prop where
  | launch {run : BatchRun} {output : List UInt8} (hPhase : run.phase = .launching)
      (hTask : run.tasks[run.launched]? = some (.waiting (.stream output))) :
      Step run { run.send run.launched [] (.reading (Text.byteLines output)) with
        launched := run.launched + 1 }
  | refuse {run : BatchRun} {error : BatchError} (hPhase : run.phase = .launching)
      (hTask : run.tasks[run.launched]? = some (.waiting (.refused error))) :
      Step run { run.send run.launched [.failed run.launched ⟨Launch.spawnKind, error.message⟩]
          (.reading []) with
        launched := run.launched + 1 }
  | await {run : BatchRun} (hPhase : run.phase = .launching)
      (hLaunched : run.tasks.length ≤ run.launched) : Step run { run with phase := .results }
  /-- A reader reads a line and sends the report that it holds, if it holds one. -/
  | read {run : BatchRun} {n : Nat} {line : List UInt8} {text : String}
      {unread : List (List UInt8)} (hTask : run.tasks[n]? = some (.reading (line :: unread)))
      (hText : Utf8.text? line = some text) :
      Step run (run.send n (TaskReport.ofLine? n text).toList (.reading unread))
  | stop {run : BatchRun} {n : Nat} {line : List UInt8} {unread : List (List UInt8)}
      (hTask : run.tasks[n]? = some (.reading (line :: unread)))
      (hText : Utf8.text? line = none) : Step run (run.send n [] (.reading []))
  | takeResult {run : BatchRun} {arrival : Nat × Value} {rest : List (Nat × Value)}
      (hPhase : run.phase = .results) (hQueued : run.queued.results = arrival :: rest) :
      Step run { run with
        queued := { run.queued with results := rest }
        taken := { run.taken with results := run.taken.results ++ [arrival] } }
  /-- The channel of results is empty and nobody is left who could send on it. -/
  | endResults {run : BatchRun} (hPhase : run.phase = .results)
      (hDone : ∀ task ∈ run.tasks, task = .reading []) (hQueued : run.queued.results = []) :
      Step run { run with phase := .errors }
  | takeError {run : BatchRun} {arrival : Nat × TaskFailure} {rest : List (Nat × TaskFailure)}
      (hPhase : run.phase = .errors) (hQueued : run.queued.errors = arrival :: rest) :
      Step run { run with
        queued := { run.queued with errors := rest }
        taken := { run.taken with errors := run.taken.errors ++ [arrival] } }
  | endErrors {run : BatchRun} (hPhase : run.phase = .errors)
      (hDone : ∀ task ∈ run.tasks, task = .reading []) (hQueued : run.queued.errors = []) :
      Step run { run with phase := .drained }

abbrev Leads : BatchRun → BatchRun → Prop := Relation.ReflTransGen Step

def foreseen (run : BatchRun) (i : Nat) : Arrivals :=
  ((run.taken.append run.queued).addAll
    ((run.tasks[i]?.map (TaskState.unsent i)).getD [])).carrying i

/-- What a task sends is no longer to be sent, and no other index has anything of it. -/
theorem foreseen_send {run : BatchRun} {n : Nat} {old state : TaskState} {sent : List TaskReport}
    (hTask : run.tasks[n]? = some old) (hSent : old.unsent n = sent ++ state.unsent n)
    (hIndex : ∀ report ∈ sent, report.index = n) (i : Nat) :
    (run.send n sent state).foreseen i = run.foreseen i := by
  have hLess : n < run.tasks.length := (List.getElem?_eq_some_iff.mp hTask).1
  unfold foreseen send
  dsimp only
  rw [Arrivals.append_addAll]
  by_cases hSame : n = i
  · subst hSame
    rw [List.getElem?_set_self hLess, hTask, Option.map_some, Option.getD_some, Option.map_some,
      Option.getD_some, hSent, Arrivals.addAll_append]
  · have hNone : (sent.filter fun report => report.index = i) = [] := by
      rw [List.filter_eq_nil_iff]
      intro report hReport
      rw [decide_eq_true_eq, hIndex report hReport]
      exact hSame
    rw [List.getElem?_set_ne hSame, Arrivals.carrying_addAll, Arrivals.carrying_addAll, hNone,
      Arrivals.carrying_addAll]
    rfl

theorem Step.foreseen_eq {run next : BatchRun} (h : Step run next) (i : Nat) :
    next.foreseen i = run.foreseen i := by
  cases h with
  | launch hPhase hTask => exact foreseen_send hTask rfl (by simp) i
  | refuse hPhase hTask => exact foreseen_send hTask rfl (by simp [TaskReport.index]) i
  | await hPhase hLaunched => rfl
  | read hTask hText =>
    refine foreseen_send hTask ?_ ?_ i
    · exact TaskReport.ofLines_text hText _ _
    intro report hReport
    exact TaskReport.index_of_ofLine? (Option.mem_toList.mp hReport)
  | stop hTask hText =>
    refine foreseen_send hTask ?_ (by simp) i
    exact TaskReport.ofLines_noText hText _ _
  | takeResult hPhase hQueued =>
    -- The first of a queue becomes the last of what was taken; behind each other they stay the
    -- same.
    simp only [foreseen, Arrivals.append, hQueued, List.append_assoc, List.singleton_append]
  | endResults hPhase hDone hQueued => rfl
  | takeError hPhase hQueued =>
    simp only [foreseen, Arrivals.append, hQueued, List.append_assoc, List.singleton_append]
  | endErrors hPhase hDone hQueued => rfl

theorem Step.length_eq {run next : BatchRun} (h : Step run next) :
    next.tasks.length = run.tasks.length := by
  cases h <;> simp [send]

structure Orderly (run : BatchRun) : Prop where
  waiting : ∀ n task, run.tasks[n]? = some task → (task.isWaiting = true ↔ run.launched ≤ n)
  launched : run.phase.left ≤ 2 → run.tasks.length ≤ run.launched
  done : run.phase.left ≤ 1 → ∀ task ∈ run.tasks, task = .reading []
  noResults : run.phase.left ≤ 1 → run.queued.results = []
  noErrors : run.phase.left = 0 → run.queued.errors = []

theorem orderly_start (sources : List TaskSource) : (start sources).Orderly where
  waiting := by
    intro n task hTask
    obtain ⟨source, -, rfl⟩ := Option.map_eq_some_iff.mp (List.getElem?_map ▸ hTask)
    exact iff_of_true rfl (Nat.zero_le n)
  launched := fun h => absurd h (show ¬3 ≤ 2 by decide)
  done := fun h => absurd h (show ¬3 ≤ 1 by decide)
  noResults := fun h => absurd h (show ¬3 ≤ 1 by decide)
  noErrors := fun h => absurd h (show ¬3 = 0 by decide)

theorem Orderly.send {run : BatchRun} (hRun : run.Orderly) {n : Nat} {old : TaskState}
    {sent : List TaskReport} {unread : List (List UInt8)} (launched : Nat)
    (hTask : run.tasks[n]? = some old) (hOld : old ≠ .reading [])
    (hLaunched : ∀ m, launched ≤ m ↔ run.launched ≤ m ∧ m ≠ n)
    (hPhase : run.phase.left ≤ 2 → launched = run.launched) :
    Orderly { run.send n sent (.reading unread) with launched } := by
  have hLess : n < run.tasks.length := (List.getElem?_eq_some_iff.mp hTask).1
  have hEarly : ¬run.phase.left ≤ 1 := fun hLate =>
    hOld (hRun.done hLate old (List.mem_of_getElem? hTask))
  constructor
  case waiting =>
    intro m task hFound
    dsimp only [BatchRun.send] at hFound ⊢
    rw [hLaunched]
    by_cases hSame : n = m
    · subst hSame
      rw [List.getElem?_set_self hLess] at hFound
      cases hFound
      simp [TaskState.isWaiting]
    · rw [List.getElem?_set_ne hSame] at hFound
      rw [hRun.waiting m task hFound]
      exact ⟨fun h => ⟨h, Ne.symm hSame⟩, fun h => h.1⟩
  case launched =>
    intro hLate
    dsimp only [BatchRun.send] at hLate ⊢
    rw [List.length_set, hPhase hLate]
    exact hRun.launched hLate
  case done => exact fun hLate => absurd hLate hEarly
  case noResults => exact fun hLate => absurd hLate hEarly
  case noErrors => exact fun hLate => absurd (Nat.le_trans (Nat.le_of_eq hLate) (by decide)) hEarly

theorem Orderly.readOn {run : BatchRun} (hRun : run.Orderly) {n : Nat} {line : List UInt8}
    {unread : List (List UInt8)} (hTask : run.tasks[n]? = some (.reading (line :: unread)))
    (sent : List TaskReport) (rest : List (List UInt8)) :
    (run.send n sent (.reading rest)).Orderly := by
  have hStarted : ¬run.launched ≤ n := by
    rw [← hRun.waiting n _ hTask]
    exact Bool.false_ne_true
  have hLaunched : ∀ m, run.launched ≤ m ↔ run.launched ≤ m ∧ m ≠ n := by
    intro m
    exact ⟨fun hLe => ⟨hLe, fun hSame => hStarted (hSame ▸ hLe)⟩, fun h => h.1⟩
  exact hRun.send run.launched hTask (by simp) hLaunched fun _ => rfl

theorem Orderly.step {run next : BatchRun} (hRun : run.Orderly) (h : Step run next) :
    next.Orderly := by
  cases h with
  | launch hPhase hTask =>
    refine hRun.send _ hTask (by simp) (fun m => by omega) fun hLate => ?_
    rw [hPhase] at hLate
    exact absurd hLate (by decide)
  | refuse hPhase hTask =>
    refine hRun.send _ hTask (by simp) (fun m => by omega) fun hLate => ?_
    rw [hPhase] at hLate
    exact absurd hLate (by decide)
  | await hPhase hLaunched =>
    exact ⟨hRun.waiting, fun _ => hLaunched, fun h => absurd h (show ¬2 ≤ 1 by decide),
      fun h => absurd h (show ¬2 ≤ 1 by decide), fun h => absurd h (show ¬2 = 0 by decide)⟩
  | read hTask hText => exact hRun.readOn hTask _ _
  | stop hTask hText => exact hRun.readOn hTask _ _
  | takeResult hPhase hQueued =>
    have hEarly : ¬run.phase.left ≤ 1 := by
      rw [hPhase]
      decide
    exact ⟨hRun.waiting, hRun.launched, hRun.done, fun hLate => absurd hLate hEarly,
      hRun.noErrors⟩
  | endResults hPhase hDone hQueued =>
    refine ⟨hRun.waiting, fun _ => hRun.launched ?_, fun _ => hDone, fun _ => hQueued,
      fun h => absurd h (show ¬1 = 0 by decide)⟩
    rw [hPhase]
    decide
  | takeError hPhase hQueued =>
    refine ⟨hRun.waiting, hRun.launched, hRun.done, hRun.noResults, fun hLast => ?_⟩
    rw [hPhase] at hLast
    exact absurd hLast (by decide)
  | endErrors hPhase hDone hQueued =>
    have hLate : run.phase.left ≤ 1 := by
      rw [hPhase]
      decide
    exact ⟨hRun.waiting, fun _ => hRun.launched (Nat.le_succ_of_le hLate), fun _ => hDone,
      fun _ => hRun.noResults hLate, fun _ => hQueued⟩

theorem Leads.orderly {sources : List TaskSource} {run : BatchRun}
    (h : Leads (start sources) run) : run.Orderly := by
  induction h with
  | refl => exact orderly_start sources
  | tail _ hStep ih => exact ih.step hStep

theorem Leads.foreseen_eq {run last : BatchRun} (h : Leads run last) (i : Nat) :
    last.foreseen i = run.foreseen i := by
  induction h with
  | refl => rfl
  | tail _ hStep ih => rw [hStep.foreseen_eq, ih]

theorem Leads.length_eq {run last : BatchRun} (h : Leads run last) :
    last.tasks.length = run.tasks.length := by
  induction h with
  | refl => rfl
  | tail _ hStep ih => rw [hStep.length_eq, ih]

theorem Orderly.progress {run : BatchRun} (hRun : run.Orderly) (hPhase : run.phase ≠ .drained) :
    ∃ next, Step run next := by
  cases hNow : run.phase with
  | launching =>
    cases hTask : run.tasks[run.launched]? with
    | none => exact ⟨_, .await hNow (List.getElem?_eq_none_iff.mp hTask)⟩
    | some task =>
      cases task with
      | waiting source =>
        cases source with
        | stream output => exact ⟨_, .launch hNow hTask⟩
        | refused error => exact ⟨_, .refuse hNow hTask⟩
      | reading unread =>
        -- Whatever has a reader was launched already.
        exact absurd ((hRun.waiting _ _ hTask).mpr (Nat.le_refl _)) Bool.false_ne_true
  | results =>
    by_cases hDone : ∀ task ∈ run.tasks, task = .reading []
    · cases hQueued : run.queued.results with
      | nil => exact ⟨_, .endResults hNow hDone hQueued⟩
      | cons arrival rest => exact ⟨_, .takeResult hNow hQueued⟩
    · push Not at hDone
      obtain ⟨task, hTask, hLeft⟩ := hDone
      obtain ⟨n, hTask⟩ := List.getElem?_of_mem hTask
      cases task with
      | waiting source =>
        -- Results are drained only after every launch.
        have hLaunched := hRun.launched (by rw [hNow]; decide)
        have hLate := (hRun.waiting n _ hTask).mp rfl
        have hLess := (List.getElem?_eq_some_iff.mp hTask).1
        omega
      | reading unread =>
        obtain ⟨line, unread, rfl⟩ := List.exists_cons_of_ne_nil fun hNil => hLeft (congrArg _ hNil)
        cases hText : Utf8.text? line with
        | none => exact ⟨_, .stop hTask hText⟩
        | some text => exact ⟨_, .read hTask hText⟩
  | errors =>
    have hDone := hRun.done (by rw [hNow]; decide)
    cases hQueued : run.queued.errors with
    | nil => exact ⟨_, .endErrors hNow hDone hQueued⟩
    | cons arrival rest => exact ⟨_, .takeError hNow hQueued⟩
  | drained => exact absurd hNow hPhase

def work (run : BatchRun) : Nat :=
  run.phase.left + TaskState.workOfAll run.tasks + run.queued.size

theorem work_send_lt {run : BatchRun} {n : Nat} {old state : TaskState} {sent : List TaskReport}
    (hTask : run.tasks[n]? = some old) (hLess : state.work + sent.length < old.work)
    (launched : Nat) : work { run.send n sent state with launched } < run.work := by
  have hTasks := TaskState.workOfAll_set hTask state
  simp only [work, send, Arrivals.size_addAll]
  omega

theorem Step.work_lt {run next : BatchRun} (h : Step run next) : next.work < run.work := by
  cases h with
  | launch hPhase hTask =>
    refine work_send_lt hTask ?_ _
    simp [TaskState.work]
  | refuse hPhase hTask =>
    refine work_send_lt hTask ?_ _
    simp [TaskState.work]
  | await hPhase hLaunched => simp only [work, hPhase, BatchPhase.left]; omega
  | @read n line text unread hTask hText =>
    have hSent : (TaskReport.ofLine? n text).toList.length ≤ 1 := by
      cases TaskReport.ofLine? n text <;> simp
    refine work_send_lt hTask ?_ run.launched
    simp only [TaskState.work, List.length_cons]
    omega
  | @stop n line unread hTask hText =>
    refine work_send_lt hTask ?_ run.launched
    simp only [TaskState.work, List.length_cons, List.length_nil]
    omega
  | takeResult hPhase hQueued =>
    simp only [work, Arrivals.size, hQueued, List.length_cons]
    omega
  | endResults hPhase hDone hQueued => simp only [work, hPhase, BatchPhase.left]; omega
  | takeError hPhase hQueued =>
    simp only [work, Arrivals.size, hQueued, List.length_cons]
    omega
  | endErrors hPhase hDone hQueued => simp only [work, hPhase, BatchPhase.left]; omega

theorem Orderly.drains {run : BatchRun} (hRun : run.Orderly) :
    ∃ last, Leads run last ∧ last.phase = .drained := by
  induction hWork : run.work using Nat.strong_induction_on generalizing run with
  | _ left ih =>
    -- A run that is not drained can take a step, and no step can be taken for ever.
    by_cases hPhase : run.phase = .drained
    · exact ⟨run, .refl, hPhase⟩
    · obtain ⟨next, hStep⟩ := hRun.progress hPhase
      obtain ⟨last, hLeads, hDrained⟩ :=
        ih next.work (hWork ▸ hStep.work_lt) (hRun.step hStep) rfl
      exact ⟨last, .head hStep hLeads, hDrained⟩

def outcome (run : BatchRun) : BatchOutcome :=
  run.taken.reconcile run.tasks.length

/-- When everything is drained, what was taken for an index is what its source reports. -/
theorem slot_drained {sources : List TaskSource} {last : BatchRun}
    (hRun : Leads (start sources) last) (hDrained : last.phase = .drained) {i : Nat}
    {source : TaskSource} (hSource : sources[i]? = some source) :
    last.taken.slot i = source.slot i := by
  have hOrderly := hRun.orderly
  have hLess : i < last.tasks.length := by
    rw [hRun.length_eq, start, List.length_map]
    exact (List.getElem?_eq_some_iff.mp hSource).1
  have hTask : last.tasks[i]? = some (.reading []) := by
    rw [List.getElem?_eq_getElem hLess]
    exact congrArg some (hOrderly.done (by rw [hDrained]; decide) _ (List.getElem_mem hLess))
  have hQueued : last.queued = .empty := by
    have hResults := hOrderly.noResults (by rw [hDrained]; decide)
    have hErrors := hOrderly.noErrors (by rw [hDrained]; rfl)
    rw [Arrivals.empty, ← hResults, ← hErrors]
  -- With empty queues and readers at their end, all that was foreseen was taken.
  have hLast : last.foreseen i = last.taken.carrying i := by
    rw [foreseen, hTask, hQueued]
    simp [Arrivals.append, Arrivals.empty, TaskState.unsent, TaskReport.ofLines, Arrivals.addAll]
  have hStart : (start sources).foreseen i =
      (Arrivals.empty.addAll (source.reports i)).carrying i := by
    have hFirst : (start sources).tasks[i]? = some (.waiting source) := by
      rw [start, List.getElem?_map, hSource]
      rfl
    rw [foreseen, hFirst]
    rfl
  rw [← Arrivals.slot_carrying, ← hLast, hRun.foreseen_eq, hStart, Arrivals.slot_carrying]
  rfl

end BatchRun

namespace Launch

def source (deadline : Duration) (grace : Grace) (moment : Nat) : Launch → TaskSource
  | .started behaviour => .stream ((run deadline grace behaviour).outputUntil moment)
  | .refused error => .refused error

theorem reports_eq (deadline : Duration) (grace : Grace) (moment index : Nat) (launch : Launch) :
    launch.reports deadline grace moment index =
      (launch.source deadline grace moment).reports index := by
  cases launch <;> rfl

end Launch

section Launches

variable (deadline : Duration) (grace : Grace) (moment : Nat)

theorem Launch.index_of_mem_reports {index : Nat} {launch : Launch} {report : TaskReport}
    (h : report ∈ launch.reports deadline grace moment index) : report.index = index := by
  rw [launch.reports_eq] at h
  exact TaskSource.index_of_mem_reports h

theorem le_index_of_mem_reportsFrom {start : Nat} {launches : List Launch} {report : TaskReport}
    (h : report ∈ reportsFrom deadline grace moment start launches) : start ≤ report.index := by
  induction launches generalizing start with
  | nil => cases h
  | cons launch rest ih =>
    rcases List.mem_append.mp h with hFirst | hRest
    · exact Nat.le_of_eq (launch.index_of_mem_reports deadline grace moment hFirst).symm
    · exact Nat.le_of_succ_le (ih hRest)

/-- Among the reports of all launches those for an index are the ones of its own launch. -/
theorem filter_reportsFrom (start : Nat) {k : Nat} {launches : List Launch} {launch : Launch}
    (hLaunch : launches[k]? = some launch) :
    (reportsFrom deadline grace moment start launches).filter (fun report =>
        report.index = start + k) = launch.reports deadline grace moment (start + k) := by
  induction launches generalizing start k with
  | nil => cases hLaunch
  | cons first rest ih =>
    rw [reportsFrom, List.filter_append]
    cases k with
    | zero =>
      obtain rfl : first = launch := Option.some.inj hLaunch
      have hOwn : (first.reports deadline grace moment start).filter (fun report =>
          report.index = start) = first.reports deadline grace moment start := by
        rw [List.filter_eq_self]
        intro report hReport
        exact decide_eq_true (first.index_of_mem_reports deadline grace moment hReport)
      -- The launches behind it have greater indices.
      have hOthers : (reportsFrom deadline grace moment (start + 1) rest).filter (fun report =>
          report.index = start) = [] := by
        rw [List.filter_eq_nil_iff]
        intro report hReport hIndex
        have hLate := le_index_of_mem_reportsFrom deadline grace moment hReport
        rw [of_decide_eq_true hIndex] at hLate
        omega
      rw [Nat.add_zero, hOwn, hOthers, List.append_nil]
    | succ k =>
      have hFirst : (first.reports deadline grace moment start).filter (fun report =>
          report.index = start + (k + 1)) = [] := by
        rw [List.filter_eq_nil_iff]
        intro report hReport hIndex
        have hOwn := first.index_of_mem_reports deadline grace moment hReport
        have hOther := of_decide_eq_true hIndex
        omega
      have hRest := ih (start + 1) hLaunch
      rw [show start + 1 + k = start + (k + 1) by omega] at hRest
      rw [hFirst, hRest, List.nil_append]

theorem slot_addAll_reportsFrom {launches : List Launch} {i : Nat} {launch : Launch}
    (hLaunch : launches[i]? = some launch) :
    (Arrivals.empty.addAll (reportsFrom deadline grace moment 0 launches)).slot i =
      (launch.source deadline grace moment).slot i := by
  have hFilter := filter_reportsFrom deadline grace moment 0 hLaunch
  rw [Nat.zero_add, launch.reports_eq] at hFilter
  rw [← Arrivals.slot_carrying, Arrivals.carrying_addAll, hFilter]
  rfl

end Launches

/-- A batch has the outcome of every run over the sources of its launches, whatever the order in
which the readers take their steps. -/
theorem collectLaunches_eq_outcome {deadline : Duration} {grace : Grace} {launches : List Launch}
    {last : BatchRun}
    (hRun : BatchRun.Leads (.start (launches.map
      (Launch.source deadline grace (batchEnd deadline grace launches)))) last)
    (hDrained : last.phase = .drained) :
    collectLaunches deadline grace launches = last.outcome := by
  have hLength : last.tasks.length = launches.length := by
    rw [hRun.length_eq, BatchRun.start, List.length_map, List.length_map]
  have hSlots : ∀ i < launches.length, (Arrivals.empty.addAll
      (reportsFrom deadline grace (batchEnd deadline grace launches) 0 launches)).slot i =
        last.taken.slot i := by
    intro i hi
    have hLaunch := List.getElem?_eq_getElem hi
    rw [slot_addAll_reportsFrom deadline grace _ hLaunch]
    refine (BatchRun.slot_drained hRun hDrained ?_).symm
    rw [List.getElem?_map, hLaunch]
    rfl
  rw [collectLaunches, BatchRun.outcome, hLength]
  exact Arrivals.reconcile_congr hSlots

end DeviceRig
