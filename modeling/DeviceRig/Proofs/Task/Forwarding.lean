import DeviceRig.Proofs.Task.ReportLines
import DeviceRig.Task.Outcome
import Mathlib.Data.List.TakeWhile

/-!
# Reports that are passed on

The standard output of a task is complete lines of any bytes. A line brings a
report if it is text and holds a report with the index of the task. Reports are
passed on in the order of their lines, each to the channel of its kind, up to
the first line that is no text; what stands behind that line is lost.
-/
namespace DeviceRig

open Json

namespace TaskReport

/-- Whether a line is text. A carriage return at its end does not belong to it. -/
def isText (line : List UInt8) : Bool :=
  (Utf8.text? (Text.dropReturn 13 line)).isSome

def ofBytes? (index : Nat) (line : List UInt8) : Option TaskReport :=
  (Utf8.text? (Text.dropReturn 13 line)).bind (ofLine? index)

def result? : TaskReport → Option (Nat × Value)
  | .result index value => some (index, value)
  | .failed _ _ => none

def failure? : TaskReport → Option (Nat × TaskFailure)
  | .result _ _ => none
  | .failed index failure => some (index, failure)

theorem ofLine?_eq_some {index : Nat} {line : String} {report : TaskReport} :
    ofLine? index line = some report ↔
      decode (Utf8.bytes line) = .ok report ∧ report.index = index := by
  unfold ofLine?
  constructor
  · intro h
    split at h
    · rename_i found hDecode
      by_cases hIndex : found.index = index
      · rw [if_pos hIndex] at h
        cases h
        exact ⟨hDecode, hIndex⟩
      · rw [if_neg hIndex] at h
        cases h
    · cases h
  · rintro ⟨hDecode, hIndex⟩
    rw [hDecode]
    exact if_pos hIndex

theorem ofBytes?_eq_some {index : Nat} {line : List UInt8} {report : TaskReport} :
    ofBytes? index line = some report ↔
      ∃ text, Utf8.text? (Text.dropReturn 13 line) = some text ∧
        decode (Utf8.bytes text) = .ok report ∧ report.index = index := by
  rw [ofBytes?, Option.bind_eq_some_iff]
  constructor
  · rintro ⟨text, hText, hLine⟩
    exact ⟨text, hText, ofLine?_eq_some.mp hLine⟩
  · rintro ⟨text, hText, hReport⟩
    exact ⟨text, hText, ofLine?_eq_some.mpr hReport⟩

theorem ofLines_map_dropReturn (index : Nat) (lines : List (List UInt8)) :
    ofLines index (lines.map (Text.dropReturn 13)) =
      (lines.takeWhile isText).filterMap (ofBytes? index) := by
  induction lines with
  | nil => rfl
  | cons line rest ih =>
    rw [List.map_cons]
    cases hText : Utf8.text? (Text.dropReturn 13 line) with
    | none =>
      have hLine : isText line = false := by rw [isText, hText]; rfl
      rw [ofLines_noText hText, List.takeWhile_cons_of_neg (by simp [hLine])]
      rfl
    | some text =>
      have hLine : isText line = true := by rw [isText, hText]; rfl
      have hReport : ofBytes? index line = ofLine? index text := by rw [ofBytes?, hText]; rfl
      rw [ofLines_text hText, List.takeWhile_cons_of_pos hLine, ih, List.filterMap_cons, hReport]
      cases ofLine? index text <;> rfl

theorem ofOutput_ended (index : Nat) {lines : List (List UInt8)}
    (hFeed : ∀ line ∈ lines, 10 ∉ line) :
    ofOutput index (Text.ended lines) = (lines.takeWhile isText).filterMap (ofBytes? index) := by
  rw [← ofLines_map_dropReturn, ← Text.byteLines_ended hFeed]
  rfl

theorem text?_line (report : TaskReport) :
    Utf8.text? (Text.dropReturn 13 (Utf8.bytes report.line)) = some report.line := by
  have hLines := report.byteLines_line
  rw [Text.byteLines_feed report.feed_notMem_line, List.cons.injEq] at hLines
  rw [hLines.1, Utf8.text?_bytes]

theorem isText_line (report : TaskReport) : isText (Utf8.bytes report.line) = true := by
  rw [isText, text?_line report]
  rfl

theorem ofBytes?_line {report : TaskReport} (hPlain : report.Plain) (index : Nat) :
    ofBytes? index (Utf8.bytes report.line) =
      if report.index = index then some report else none := by
  rw [ofBytes?, text?_line report, Option.bind_some, ofLine?, decode_line hPlain]

end TaskReport

namespace Arrivals

theorem addAll_eq (arrivals : Arrivals) (reports : List TaskReport) :
    arrivals.addAll reports =
      ⟨arrivals.results ++ reports.filterMap TaskReport.result?,
        arrivals.errors ++ reports.filterMap TaskReport.failure?⟩ := by
  induction reports generalizing arrivals with
  | nil => simp [addAll]
  | cons report rest ih =>
    have hRest := ih (arrivals.add report)
    cases report with
    | result index value =>
      rw [add, List.append_assoc] at hRest
      exact hRest
    | failed index failure =>
      rw [add, List.append_assoc] at hRest
      exact hRest

/-- What a task prints is passed on line by line up to the first line that is no text: the reports
with its index, in order, results to one channel and failures to the other. All of its lines count
if they are texts. -/
theorem forwarded_up_to_noText (index : Nat) {lines : List (List UInt8)}
    (hFeed : ∀ line ∈ lines, 10 ∉ line) :
    let arrived := empty.addAll (TaskReport.ofOutput index (Text.ended lines))
    let reports := (lines.takeWhile TaskReport.isText).filterMap (TaskReport.ofBytes? index)
    arrived.results = reports.filterMap TaskReport.result? ∧
      arrived.errors = reports.filterMap TaskReport.failure? ∧
      ((∀ line ∈ lines, TaskReport.isText line = true) →
        reports = lines.filterMap (TaskReport.ofBytes? index)) ∧
      (∀ line report, TaskReport.ofBytes? index line = some report ↔
        ∃ text, Utf8.text? (Text.dropReturn 13 line) = some text ∧
          TaskReport.decode (Utf8.bytes text) = .ok report ∧ report.index = index) := by
  intro arrived reports
  have hArrived : arrived =
      ⟨reports.filterMap TaskReport.result?, reports.filterMap TaskReport.failure?⟩ := by
    rw [show arrived = empty.addAll _ from rfl, addAll_eq, TaskReport.ofOutput_ended index hFeed]
    rfl
  rw [hArrived]
  refine ⟨rfl, rfl, ?_, fun line report => TaskReport.ofBytes?_eq_some⟩
  intro hTexts
  exact congrArg (List.filterMap _) (List.takeWhile_eq_self_iff.mpr hTexts)

/-- Before a line that is no text a report is passed on, and one with another index is not. -/
theorem forwarded_before_noText :
    let own := Utf8.bytes (TaskReport.result 0 (.integer 7)).line
    let forged := Utf8.bytes (TaskReport.failed 1 ⟨"Forged", "not mine"⟩).line
    let lines := [forged, own, [0xFF, 0xFE], own]
    (∀ line ∈ lines, 10 ∉ line) ∧
      (empty.addAll (TaskReport.ofOutput 0 (Text.ended lines))).results = [(0, .integer 7)] ∧
      (empty.addAll (TaskReport.ofOutput 0 (Text.ended lines))).errors = [] := by
  intro own forged lines
  have hOwn : (TaskReport.result 0 (.integer 7)).Plain :=
    ⟨by decide, fitsInteger_natCast (by decide)⟩
  have hForged : (TaskReport.failed 1 ⟨"Forged", "not mine"⟩).Plain :=
    show 1 < 2 ^ 64 by decide
  have hFeed : ∀ line ∈ lines, 10 ∉ line := by
    simp only [lines, List.mem_cons, List.not_mem_nil, or_false]
    rintro line (rfl | rfl | rfl | rfl)
    · exact TaskReport.feed_notMem_line _
    · exact TaskReport.feed_notMem_line _
    · decide
    · exact TaskReport.feed_notMem_line _
  have hReports : (lines.takeWhile TaskReport.isText).filterMap (TaskReport.ofBytes? 0) =
      [.result 0 (.integer 7)] := by
    rw [List.takeWhile_cons_of_pos (TaskReport.isText_line _),
      List.takeWhile_cons_of_pos (TaskReport.isText_line _),
      List.takeWhile_cons_of_neg (by decide +kernel)]
    simp [TaskReport.ofBytes?_line hForged, TaskReport.ofBytes?_line hOwn, TaskReport.index]
  obtain ⟨hResults, hErrors, -, -⟩ := forwarded_up_to_noText 0 hFeed
  rw [hReports] at hResults hErrors
  exact ⟨hFeed, hResults, hErrors⟩

/-- Behind a line that is no text a report is lost. -/
theorem not_forwarded_behind_noText :
    let own := Utf8.bytes (TaskReport.result 0 (.integer 7)).line
    let lines := [[0xFF, 0xFE], own]
    (∀ line ∈ lines, 10 ∉ line) ∧
      (empty.addAll (TaskReport.ofOutput 0 (Text.ended lines))).results = [] ∧
      (lines.filterMap (TaskReport.ofBytes? 0)).filterMap TaskReport.result? =
        [(0, .integer 7)] := by
  intro own lines
  have hOwn : (TaskReport.result 0 (.integer 7)).Plain :=
    ⟨by decide, fitsInteger_natCast (by decide)⟩
  have hNone : TaskReport.isText [0xFF, 0xFE] = false := by decide +kernel
  have hFeed : ∀ line ∈ lines, 10 ∉ line := by
    simp only [lines, List.mem_cons, List.not_mem_nil, or_false]
    rintro line (rfl | rfl)
    · decide
    · exact TaskReport.feed_notMem_line _
  refine ⟨hFeed, ?_, ?_⟩
  · rw [TaskReport.ofOutput_ended 0 hFeed, List.takeWhile_cons_of_neg (by simp [hNone])]
    rfl
  · have hBytes : TaskReport.ofBytes? 0 [0xFF, 0xFE] = none := by
      rw [TaskReport.isText, Option.isSome_eq_false_iff, Option.isNone_iff_eq_none] at hNone
      rw [TaskReport.ofBytes?, hNone]
      rfl
    simp [lines, own, hBytes, TaskReport.ofBytes?_line hOwn, TaskReport.index, TaskReport.result?]

end Arrivals

end DeviceRig
