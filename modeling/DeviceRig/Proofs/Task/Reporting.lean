import DeviceRig.Proofs.Json.Nesting
import DeviceRig.Proofs.Task.ReportCodec
import DeviceRig.Proofs.Task.SpecCodec
import DeviceRig.Task.Worker

/-!
# The report of a task process

However its task ends, a process closes the session first and then writes one
line, from which the report is read back. A process that gets no spec writes
nothing.
-/
namespace DeviceRig

open Json

theorem RigSession.held_close (place : RigSession) : place.close.2.session.held = [] :=
  rfl

namespace WorkerState

theorem output_write (state : WorkerState) (bytes : List UInt8) :
    (state.write bytes).output = state.output ++ bytes := by
  simp [output, write]

theorem output_writeReport (state : WorkerState) (report : TaskReport) :
    (state.writeReport report).output = state.output ++ (Utf8.bytes report.line ++ [10]) := by
  rw [writeReport, output_write, output_write, List.append_assoc]

theorem mem_writes_writeReport {state : WorkerState} {report : TaskReport} {write : WorkerWrite}
    (hWrite : write ∈ (state.writeReport report).writes) :
    write ∈ state.writes ∨ write.place = state.place := by
  simp only [writeReport, WorkerState.write, List.append_assoc, List.mem_append, List.mem_cons,
    List.not_mem_nil, or_false] at hWrite
  rcases hWrite with hBefore | rfl | rfl
  · exact .inl hBefore
  · exact .inr rfl
  · exact .inr rfl

end WorkerState

/-- What a task process has to report of the end of its task: the value, the failure, or the panic
with its text. -/
inductive TaskEnd.Reports (index : Nat) : TaskEnd → TaskReport → Prop where
  | returned (value : Value) : Reports index (.returned value) (.result index value)
  | failed (failure : TaskFailure) : Reports index (.failed failure) (.failed index failure)
  | panicked (text : String) : Reports index (.panicked (some text)) (.failed index ⟨"Panic", text⟩)
  | panickedMutely : Reports index (.panicked none) (.failed index ⟨"Panic", "task panicked"⟩)

theorem TaskEnd.Reports.report? {index : Nat} {ending : TaskEnd} {report : TaskReport}
    (h : ending.Reports index report) : ending.report? index = some report := by
  cases h with
  | returned value => rfl
  | failed failure => rfl
  | panicked text => rfl
  | panickedMutely => rfl

theorem TaskEnd.Reports.index_eq {index : Nat} {ending : TaskEnd} {report : TaskReport}
    (h : ending.Reports index report) : report.index = index := by
  cases h with
  | returned value => rfl
  | failed failure => rfl
  | panicked text => rfl
  | panickedMutely => rfl

theorem TaskReport.plain_of_exact {report : TaskReport} (hIndex : report.index < 2 ^ 64)
    (hValue : ∀ index value, report = .result index value →
      value.Exact ∧ value.nesting ≤ innerDepth) : report.Plain := by
  cases report with
  | result index value =>
    obtain ⟨hExact, hNesting⟩ := hValue index value rfl
    exact ⟨hIndex, hExact.plain hNesting⟩
  | failed index failure => exact hIndex

theorem WorkerRun.succeeded_iff {run : WorkerRun} {report : TaskReport}
    (hReport : run.report = some report) :
    run.succeeded = true ↔ ∃ index value, report = .result index value := by
  rw [succeeded, hReport]
  cases report with
  | result index value => exact ⟨fun _ => ⟨index, value, rfl⟩, fun _ => rfl⟩
  | failed index failure => exact ⟨nofun, nofun⟩

namespace TaskRegistry

/-- What a process is after its task: the session as the task left it, then closed. -/
def afterTask (registry : TaskRegistry Task) (spec : TaskSpec) (state : WorkerState) :
    WorkerState :=
  { state with place := (registry.execute spec state.place).place }.closeSession

theorem run_perform (registry : TaskRegistry Task) (index : Nat) (spec : TaskSpec)
    (state : WorkerState) :
    (registry.perform index spec).run state =
      let run := registry.execute spec state.place
      let last := match run.ending.report? index with
        | some report => (registry.afterTask spec state).writeReport report
        | none => registry.afterTask spec state
      (⟨run.printed, run.ending.report? index, statusOf run, run.ignoresTermination, last⟩,
        last) := by
  simp only [perform]
  cases hReport : (registry.execute spec state.place).ending.report? index with
  | none =>
    simp [hReport, afterTask]
    rfl
  | some report =>
    simp [hReport, afterTask]
    rfl

theorem run_work_of_isText (registry : TaskRegistry Task) (index : Nat) {input : List UInt8}
    {spec : TaskSpec} (hText : TaskSpec.IsText input spec) (state : WorkerState) :
    (registry.work index input).run.run state =
      (.ok ((registry.perform index spec).run state).1,
        ((registry.perform index spec).run state).2) := by
  have hDecode : TaskSpec.decode .streamed input = .ok spec := TaskSpec.decode_eq_ok_iff.mpr hText
  rw [work, hDecode]
  rfl

theorem runWorker_of_isText (registry : TaskRegistry Task) (settings : TransportSettings)
    (index : Nat) {input : List UInt8} {spec : TaskSpec} (hText : TaskSpec.IsText input spec)
    (rig : Rig) :
    registry.runWorker settings index input rig = .ok (registry.runSpec settings index spec rig) :=
  congrArg Prod.fst (registry.run_work_of_isText index hText _)

theorem printed_runSpec (registry : TaskRegistry Task) (settings : TransportSettings)
    (index : Nat) (spec : TaskSpec) (rig : Rig) :
    (registry.runSpec settings index spec rig).printed =
      (registry.execute spec (WorkerState.start settings index rig).place).printed := by
  rw [runSpec, run_perform]

theorem last_runSpec (registry : TaskRegistry Task) (settings : TransportSettings) {index : Nat}
    {spec : TaskSpec} {rig : Rig} {report : TaskReport}
    (hReport : (registry.execute spec (WorkerState.start settings index rig).place).ending.report?
      index = some report) :
    (registry.runSpec settings index spec rig).last =
      (registry.afterTask spec (.start settings index rig)).writeReport report := by
  rw [runSpec, run_perform]
  simp only [hReport]

theorem place_runSpec (registry : TaskRegistry Task) (settings : TransportSettings) (index : Nat)
    (spec : TaskSpec) (rig : Rig) :
    (registry.runSpec settings index spec rig).last.place =
      (registry.afterTask spec (.start settings index rig)).place := by
  rw [runSpec, run_perform]
  dsimp only
  split
  · rfl
  · rfl

theorem run_work_of_not_isText (registry : TaskRegistry Task) (index : Nat) {input : List UInt8}
    (hText : ¬∃ spec, TaskSpec.IsText input spec) (state : WorkerState) :
    ∃ error, (registry.work index input).run.run state = (.error (.json error), state) := by
  cases hDecode : TaskSpec.decode .streamed input with
  | ok spec => exact absurd ⟨spec, TaskSpec.decode_eq_ok_iff.mp hDecode⟩ hText
  | error error =>
    refine ⟨error, ?_⟩
    rw [work, hDecode]
    rfl

end TaskRegistry

end DeviceRig
