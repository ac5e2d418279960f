import DeviceRig.Proofs.Task.Gathering
import DeviceRig.Proofs.Task.Reporting

/-!
# Batches against running in place

A task that does nothing but compute is a function of its arguments. Every
slot of a batch of such tasks holds what the function of its spec computes in
place, whatever else the processes print and in whatever order they report.
-/
namespace DeviceRig

open Json

inductive TaskConclusion where
  | returned (value : Value)
  | failed (failure : TaskFailure)
  | panicked (text : String)

namespace TaskConclusion

def ending : TaskConclusion → TaskEnd
  | .returned value => .returned value
  | .failed failure => .failed failure
  | .panicked text => .panicked (some text)

def slot : TaskConclusion → TaskResult × Option TaskFailure
  | .returned value => (.returned value, none)
  | .failed failure => (.noResult, some failure)
  | .panicked text => (.noResult, some ⟨TaskEnd.panicKind, text⟩)

def report (index : Nat) : TaskConclusion → TaskReport
  | .returned value => .result index value
  | .failed failure => .failed index failure
  | .panicked text => .failed index ⟨TaskEnd.panicKind, text⟩

theorem report?_ending (conclusion : TaskConclusion) (index : Nat) :
    conclusion.ending.report? index = some (conclusion.report index) := by
  cases conclusion <;> rfl

theorem index_report (conclusion : TaskConclusion) (index : Nat) :
    (conclusion.report index).index = index := by
  cases conclusion <;> rfl

theorem slot_report (conclusion : TaskConclusion) (index : Nat) :
    (Arrivals.empty.addAll [conclusion.report index]).slot index = conclusion.slot := by
  cases conclusion <;> simp [report, slot, Arrivals.addAll, Arrivals.add, Arrivals.empty,
    Arrivals.slot]

end TaskConclusion

abbrev TaskFunction := TaskArgs → TaskConclusion

/-- Whether a task comes out as a function does, wherever it runs, and prints only chatter. -/
structure Task.Computes (task : Task) (function : TaskFunction) : Prop where
  ending : ∀ args place, (task args place).ending = (function args).ending
  printed : ∀ args place, Chatter (task args place).printed

namespace TaskRegistry

def Computes (registry : TaskRegistry Task) (functions : TaskRegistry TaskFunction) : Prop :=
  ∀ name, Option.Rel Task.Computes (registry.find? name) (functions.find? name)

/-- What a spec comes to in place. -/
def inPlace (functions : TaskRegistry TaskFunction) (spec : TaskSpec) : TaskConclusion :=
  match functions.find? spec.entryPoint with
  | none => .failed (TaskEnd.unknownTask spec.entryPoint)
  | some function => function (.ofSpec spec)

theorem Computes.execute {registry : TaskRegistry Task} {functions : TaskRegistry TaskFunction}
    (hComputes : registry.Computes functions) (spec : TaskSpec) (place : RigSession) :
    (registry.execute spec place).ending = (functions.inPlace spec).ending ∧
      Chatter (registry.execute spec place).printed := by
  have hName := hComputes spec.entryPoint
  unfold TaskRegistry.execute inPlace
  generalize registry.find? spec.entryPoint = task at hName
  generalize functions.find? spec.entryPoint = function at hName
  cases hName with
  | none => exact ⟨rfl, Chatter.nil⟩
  | some hTask => exact ⟨hTask.ending _ place, hTask.printed _ place⟩

end TaskRegistry

/-- A launch of the worker for a spec and an index: it is refused, or the worker runs, whatever the
rig is at that moment. -/
inductive WorkerLaunch (registry : TaskRegistry Task) (settings : TransportSettings) (index : Nat)
    (spec : TaskSpec) : Launch → Prop where
  | refused (error : BatchError) : WorkerLaunch registry settings index spec (.refused error)
  | started (rig : Rig) : WorkerLaunch registry settings index spec
      ((TaskProgram.worker registry settings).launch index spec rig).1

def Launch.EndsBy (deadline : Duration) : Launch → Prop
  | .started behaviour =>
    ((behaviour [] deadline.nanoseconds).endUntil? deadline.nanoseconds).isSome = true
  | .refused _ => True

theorem Launch.run_of_endsBy {behaviour : ProcessBehaviour} {deadline : Duration} (grace : Grace)
    (hEnds : (Launch.started behaviour).EndsBy deadline) :
    run deadline grace behaviour = behaviour [] (drainEnd deadline grace) := by
  have hSignals : signals deadline grace behaviour = [] := if_pos hEnds
  rw [run, hSignals]

/-- The launches of a batch whose processes all end up to its deadline. -/
structure LaunchesInTime (registry : TaskRegistry Task) (settings : TransportSettings)
    (deadline : Duration) (specs : List TaskSpec) (launches : List Launch) : Prop where
  length : launches.length = specs.length
  worker : ∀ i spec launch, specs[i]? = some spec → launches[i]? = some launch →
    WorkerLaunch registry settings i spec launch
  endsBy : ∀ launch ∈ launches, launch.EndsBy deadline

/-- What the slot of a spec should hold: why its process could not be launched, or else what the
spec comes to in place. -/
def slotInPlace (functions : TaskRegistry TaskFunction) (spec : TaskSpec) :
    Launch → TaskResult × Option TaskFailure
  | .refused error => (.noResult, some ⟨"SpawnError", error.message⟩)
  | .started _ => (functions.inPlace spec).slot

def outcomeInPlace (functions : TaskRegistry TaskFunction) (specs : List TaskSpec)
    (launches : List Launch) : BatchOutcome :=
  let slots := List.zipWith (slotInPlace functions) specs launches
  ⟨slots.map Prod.fst, slots.map Prod.snd⟩

theorem le_foldl_max {n : Nat} {list : List Nat} (start : Nat) (h : n ∈ list ∨ n ≤ start) :
    n ≤ list.foldl max start := by
  induction list generalizing start with
  | nil => exact h.resolve_left List.not_mem_nil
  | cons first rest ih =>
    refine ih (max start first) ?_
    rw [List.mem_cons] at h
    rcases h with (rfl | hRest) | hStart
    · exact .inr (Nat.le_max_right start n)
    · exact .inl hRest
    · exact .inr (Nat.le_trans hStart (Nat.le_max_left start first))

theorem doneAt_le_batchEnd (deadline : Duration) (grace : Grace) {launches : List Launch}
    {launch : Launch} (hLaunch : launch ∈ launches) :
    launch.doneAt deadline grace ≤ batchEnd deadline grace launches :=
  Nat.le_add_right_of_le (le_foldl_max 0 (.inl (List.mem_map_of_mem hLaunch)))

namespace WorkerRun

theorem behaviour_nil (run : WorkerRun) (startedAt horizon : Nat) :
    run.behaviour startedAt [] horizon =
      ⟨[(0, run.printed), (run.endsAt - startedAt, run.reportLine)],
        some ⟨run.endsAt - startedAt, run.status⟩⟩ :=
  rfl

theorem source_behaviour {run : WorkerRun} {startedAt : Nat} {deadline : Duration} {grace : Grace}
    {launches : List Launch} (hLaunch : .started (run.behaviour startedAt) ∈ launches)
    (hEnds : (Launch.started (run.behaviour startedAt)).EndsBy deadline) :
    (Launch.started (run.behaviour startedAt)).source deadline grace
        (batchEnd deadline grace launches) = .stream (run.printed ++ run.reportLine) := by
  have hEnd : run.endsAt - startedAt ≤ deadline.nanoseconds := by
    rw [Launch.EndsBy, behaviour_nil] at hEnds
    simpa [ProcessRun.endUntil?, Option.filter] using hEnds
  have hRun := Launch.run_of_endsBy grace hEnds
  -- The batch waits for this process too, so its report is printed before the last drain.
  have hMoment : run.endsAt - startedAt ≤ batchEnd deadline grace launches := by
    have hDone := doneAt_le_batchEnd deadline grace hLaunch
    rw [Launch.doneAt, hRun, behaviour_nil] at hDone
    simp only [Option.map_some, Option.getD_some, Launch.killEnd, Launch.terminateEnd] at hDone
    omega
  rw [Launch.source, hRun, behaviour_nil]
  simp [ProcessRun.outputUntil, hMoment]

end WorkerRun

theorem TaskRegistry.reportLine_runSpec {registry : TaskRegistry Task}
    {functions : TaskRegistry TaskFunction} (hComputes : registry.Computes functions)
    (settings : TransportSettings) (index : Nat) (spec : TaskSpec) (rig : Rig) :
    (registry.runSpec settings index spec rig).reportLine =
      Utf8.bytes ((functions.inPlace spec).report index).line ++ [10] := by
  have hEnding := (hComputes.execute spec (WorkerState.start settings index rig).place).1
  have hLast := registry.last_runSpec settings
    (hEnding ▸ (functions.inPlace spec).report?_ending index)
  rw [WorkerRun.reportLine, hLast, WorkerState.output_writeReport]
  rfl

theorem TaskProgram.launch_worker (registry : TaskRegistry Task) (settings : TransportSettings)
    (index : Nat) {spec : TaskSpec} (hSpec : spec.toValue.Plain maxDepth) (rig : Rig) :
    ((worker registry settings).launch index spec rig).1 =
      .started ((registry.runSpec settings index spec rig).behaviour rig.now) := by
  have hText : TaskSpec.IsText (Utf8.bytes spec.toValue.compact) spec :=
    TaskSpec.decode_eq_ok_iff.mp (TaskSpec.decode_encode .streamed spec hSpec)
  simp only [launch, registry.runWorker_of_isText settings index hText]

def TaskFunction.task (chatter : List UInt8) (function : TaskFunction) : Task := fun args place =>
  { TaskRun.quiet (function args).ending place with printed := chatter }

namespace TaskRegistry

def ofFunctions (chatter : List UInt8) (functions : TaskRegistry TaskFunction) :
    TaskRegistry Task :=
  ⟨functions.entries.map fun entry => (entry.1, entry.2.task chatter)⟩

variable {chatter : List UInt8} (functions : TaskRegistry TaskFunction)

theorem find?_ofFunctions (name : String) :
    (ofFunctions chatter functions).find? name =
      (functions.find? name).map (TaskFunction.task chatter) := by
  obtain ⟨entries⟩ := functions
  simp only [ofFunctions, find?]
  induction entries with
  | nil => rfl
  | cons entry rest ih =>
    obtain ⟨other, function⟩ := entry
    cases hName : name == other with
    | true => simp only [List.map_cons, List.lookup_cons, hName, Option.map_some]
    | false => simp only [List.map_cons, List.lookup_cons, hName, ih]

theorem computes_ofFunctions (hChatter : Chatter chatter) :
    (ofFunctions chatter functions).Computes functions := by
  intro name
  rw [find?_ofFunctions]
  cases functions.find? name with
  | none => exact .none
  | some function => exact .some ⟨fun _ _ => rfl, fun _ _ => hChatter⟩

theorem endsBy_ofFunctions (settings : TransportSettings) (index : Nat) {spec : TaskSpec}
    (hSpec : spec.toValue.Plain maxDepth) (rig : Rig) (deadline : Duration) :
    ((TaskProgram.worker (ofFunctions chatter functions) settings).launch index spec rig).1.EndsBy
      deadline := by
  have hEnds : ((ofFunctions chatter functions).runSpec settings index spec rig).endsAt =
      rig.now := by
    rw [WorkerRun.endsAt, WorkerRun.rig, place_runSpec]
    simp only [afterTask, execute, find?_ofFunctions]
    cases functions.find? spec.entryPoint <;> rfl
  rw [TaskProgram.launch_worker _ _ _ hSpec, Launch.EndsBy, WorkerRun.behaviour_nil, hEnds]
  simp [ProcessRun.endUntil?]

end TaskRegistry

section InPlace

variable {registry : TaskRegistry Task} {functions : TaskRegistry TaskFunction}
  {settings : TransportSettings} {deadline : Duration} {specs : List TaskSpec}
  {launches : List Launch}

theorem WorkerLaunch.slot_eq {index : Nat} {spec : TaskSpec} {launch : Launch}
    (hComputes : registry.Computes functions)
    (hLaunch : WorkerLaunch registry settings index spec launch) (hIndex : index < 2 ^ 64)
    (hSpec : spec.toValue.Plain maxDepth)
    (hValue : ∀ value, functions.inPlace spec = .returned value → value.Plain innerDepth)
    (hMem : launch ∈ launches) (hEnds : launch.EndsBy deadline) (grace : Grace) :
    (launch.source deadline grace (batchEnd deadline grace launches)).slot index =
      slotInPlace functions spec launch := by
  cases hLaunch with
  | refused error =>
    simp [Launch.source, TaskSource.slot, TaskSource.reports, Arrivals.addAll, Arrivals.add,
      Arrivals.empty, Arrivals.slot, slotInPlace, Launch.spawnKind]
  | started rig =>
    have hPlain : ((functions.inPlace spec).report index).Plain := by
      cases hConclusion : functions.inPlace spec with
      | returned value => exact ⟨hIndex, hValue value hConclusion⟩
      | failed failure => exact hIndex
      | panicked text => exact hIndex
    have hChatter := (hComputes.execute spec (WorkerState.start settings index rig).place).2
    have hReports := hChatter.ofLines_report hPlain
    rw [TaskConclusion.index_report] at hReports
    rw [TaskProgram.launch_worker registry settings index hSpec] at hMem hEnds ⊢
    rw [WorkerRun.source_behaviour hMem hEnds, TaskRegistry.reportLine_runSpec hComputes,
      TaskRegistry.printed_runSpec, TaskSource.slot, TaskSource.reports]
    refine Eq.trans ?_ ((functions.inPlace spec).slot_report index)
    exact congrArg (fun reports => (Arrivals.empty.addAll reports).slot index) hReports

theorem outcome_eq_inPlace {grace : Grace} {last : BatchRun}
    (hComputes : registry.Computes functions)
    (hLaunches : LaunchesInTime registry settings deadline specs launches)
    (hSize : specs.length ≤ 2 ^ 64) (hSpecs : ∀ spec ∈ specs, spec.toValue.Plain maxDepth)
    (hValues : ∀ spec ∈ specs, ∀ value,
      functions.inPlace spec = .returned value → value.Plain innerDepth)
    (hRun : BatchRun.Leads (.start (launches.map
      (Launch.source deadline grace (batchEnd deadline grace launches)))) last)
    (hDrained : last.phase = .drained) :
    last.outcome = outcomeInPlace functions specs launches := by
  have hLength : last.tasks.length = specs.length := by
    rw [hRun.length_eq, BatchRun.start, List.length_map, List.length_map, hLaunches.length]
  rw [BatchRun.outcome, hLength]
  refine Arrivals.reconcile_of_slots ?_ fun i hi => ?_
  · rw [List.length_zipWith, hLaunches.length, Nat.min_self]
  · obtain ⟨spec, hSpec⟩ : ∃ spec, specs[i]? = some spec :=
      ⟨_, List.getElem?_eq_getElem hi⟩
    obtain ⟨launch, hLaunch⟩ : ∃ launch, launches[i]? = some launch :=
      ⟨_, List.getElem?_eq_getElem (hLaunches.length.symm ▸ hi)⟩
    have hSpecMem := List.mem_of_getElem? hSpec
    have hLaunchMem := List.mem_of_getElem? hLaunch
    have hSource : (launches.map (Launch.source deadline grace
        (batchEnd deadline grace launches)))[i]? =
          some (launch.source deadline grace (batchEnd deadline grace launches)) := by
      rw [List.getElem?_map, hLaunch]
      rfl
    rw [List.getElem?_zipWith, hSpec, hLaunch, BatchRun.slot_drained hRun hDrained hSource]
    exact congrArg some ((hLaunches.worker i _ _ hSpec hLaunch).slot_eq hComputes
      (Nat.lt_of_lt_of_le hi hSize) (hSpecs _ hSpecMem) (hValues _ hSpecMem) hLaunchMem
      (hLaunches.endsBy _ hLaunchMem) grace).symm

theorem TaskProgram.getElem?_launchFrom (program : TaskProgram) (start : Nat) (rig : Rig)
    {specs : List TaskSpec} {i : Nat} {spec : TaskSpec} (hSpec : specs[i]? = some spec) :
    ∃ between, (program.launchFrom start rig specs).1[i]? =
      some (program.launch (start + i) spec between).1 := by
  induction specs generalizing start rig i with
  | nil => cases hSpec
  | cons first rest ih =>
    cases i with
    | zero =>
      cases hSpec
      exact ⟨rig, rfl⟩
    | succ i =>
      obtain ⟨between, hLaunch⟩ := ih (start + 1) (program.launch start first rig).2 hSpec
      refine ⟨between, hLaunch.trans ?_⟩
      rw [show start + 1 + i = start + (i + 1) by omega]

theorem executeBatch_worker (grace : Grace) (rig : Rig) (hComputes : registry.Computes functions)
    (hEnds : ∀ launch ∈ ((TaskProgram.worker registry settings).launchFrom 0 rig specs).1,
      launch.EndsBy deadline)
    (hSize : specs.length ≤ 2 ^ 64) (hSpecs : ∀ spec ∈ specs, spec.toValue.Plain maxDepth)
    (hValues : ∀ spec ∈ specs, ∀ value,
      functions.inPlace spec = .returned value → value.Plain innerDepth) :
    (executeBatch (.worker registry settings) specs deadline grace .collect rig).1 =
      .ok ⟨specs.map fun spec => (functions.inPlace spec).slot.1,
        specs.map fun spec => (functions.inPlace spec).slot.2⟩ := by
  generalize hFrom : ((TaskProgram.worker registry settings).launchFrom 0 rig specs).1 = launches
    at hEnds
  have hLength : launches.length = specs.length := by
    rw [← hFrom]
    exact (TaskProgram.worker registry settings).length_launchFrom 0 rig specs
  have hEach : ∀ i spec, specs[i]? = some spec → ∃ between, launches[i]? =
      some ((TaskProgram.worker registry settings).launch i spec between).1 := by
    intro i spec hSpec
    have hLaunch := (TaskProgram.worker registry settings).getElem?_launchFrom 0 rig hSpec
    rwa [hFrom, Nat.zero_add] at hLaunch
  have hLaunches : LaunchesInTime registry settings deadline specs launches := by
    refine ⟨hLength, fun i spec launch hSpec hLaunch => ?_, hEnds⟩
    obtain ⟨between, hFound⟩ := hEach i spec hSpec
    obtain rfl := Option.some.inj (hLaunch.symm.trans hFound)
    exact .started between
  have hSlots : List.zipWith (slotInPlace functions) specs launches =
      specs.map fun spec => (functions.inPlace spec).slot := by
    apply List.ext_getElem?
    intro i
    rw [List.getElem?_zipWith, List.getElem?_map]
    cases hSpec : specs[i]? with
    | none => rfl
    | some spec =>
      obtain ⟨between, hLaunch⟩ := hEach i spec hSpec
      rw [hLaunch, TaskProgram.launch_worker _ _ _ (hSpecs spec (List.mem_of_getElem? hSpec))]
      rfl
  obtain ⟨last, hRun, hDrained⟩ := (BatchRun.orderly_start (launches.map
    (Launch.source deadline grace (batchEnd deadline grace launches)))).drains
  have hOutcome := outcome_eq_inPlace hComputes hLaunches hSize hSpecs hValues hRun hDrained
  rw [← collectLaunches_eq_outcome hRun hDrained, outcomeInPlace, hSlots, List.map_map,
    List.map_map] at hOutcome
  rw [← hFrom] at hOutcome
  exact congrArg Except.ok hOutcome

end InPlace

end DeviceRig
