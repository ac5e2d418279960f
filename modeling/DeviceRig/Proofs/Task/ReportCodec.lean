import DeviceRig.Proofs.Json.OneLine
import DeviceRig.Proofs.Json.Tagged
import DeviceRig.Proofs.Text.Lines
import DeviceRig.Task.Stream
import Mathlib.Algebra.Group.Nat.Defs

/-!
# Reports on their way back

A report is printed on one line and read back from it.
-/
namespace DeviceRig

open Json

namespace TaskReport

theorem set_index {index : Nat} (hIndex : index < 2 ^ 64) :
    indexField.set (.integer index) .blank = .ok { Draft.blank with index := some index } := by
  have hNatural : Conversion.natural .index (.integer index) = .ok index :=
    Conversion.natural_natCast (Int.le_refl 0) (Int.ofNat_le.mpr (Nat.le_of_lt_succ hIndex))
  simp only [indexField, hNatural]
  rfl

/-- Whether a report has an index that fits and, if it brings a value, a plain one that nests within
the limit, of which the report itself takes one bracket. -/
def Plain : TaskReport → Prop
  | .result index value => index < 2 ^ 64 ∧ value.Plain innerDepth
  | .failed index _ => index < 2 ^ 64

theorem decode_line_result {index : Nat} {value : Value} (hIndex : index < 2 ^ 64)
    (hValue : value.Plain innerDepth) :
    decode (Utf8.bytes (line (.result index value))) = .ok (.result index value) := by
  have hKind : "result" ∈ kinds := by decide
  refine Reader.run_tagged "WorkerMessage" ofContent hKind _ ?_ ?_ ?_ .whole
  · simp [tagName]
  · simp only [List.mem_cons, List.not_mem_nil, or_false]
    rintro member (rfl | rfl)
    · exact fitsInteger_natCast hIndex
    · exact hValue
  · have hSet : ∀ draft : Draft,
        valueField.set value draft = .ok { draft with value := some value } := by
      intro draft
      simp only [valueField, Conversion.any, merged_of_plain innerDepth value hValue]
      rfl
    rw [ofContent, if_pos rfl, Content.fill, Content.setMembers_field rfl rfl (set_index hIndex),
      Content.setMembers_field rfl rfl (hSet _)]
    rfl

theorem decode_line_failed {index : Nat} (failure : TaskFailure) (hIndex : index < 2 ^ 64) :
    decode (Utf8.bytes (line (.failed index failure))) = .ok (.failed index failure) := by
  have hKind : "error" ∈ kinds := by decide
  refine Reader.run_tagged "WorkerMessage" ofContent hKind _ ?_ ?_ ?_ .whole
  · simp [tagName]
  · simp only [List.mem_cons, List.not_mem_nil, or_false]
    rintro member (rfl | rfl | rfl)
    · exact fitsInteger_natCast hIndex
    · trivial
    · trivial
  · rw [ofContent, if_neg (by decide), Content.fill,
      Content.setMembers_field rfl rfl (set_index hIndex), Content.setMembers_field rfl rfl rfl,
      Content.setMembers_field rfl rfl rfl]
    rfl

theorem decode_line {report : TaskReport} (hPlain : report.Plain) :
    decode (Utf8.bytes report.line) = .ok report := by
  cases report with
  | result index value => exact decode_line_result hPlain.1 hPlain.2
  | failed index failure => exact decode_line_failed failure hPlain

theorem noControl_line (report : TaskReport) : NoControl (Utf8.bytes report.line) :=
  noControl_valueBytes report.toValue

theorem feed_notMem_line (report : TaskReport) : 10 ∉ Utf8.bytes report.line :=
  fun hFeed => absurd (report.noControl_line 10 hFeed) (by decide)

theorem byteLines_line (report : TaskReport) :
    Text.byteLines (Utf8.bytes report.line ++ [10]) = [Utf8.bytes report.line] := by
  refine Text.byteLines_line report.feed_notMem_line fun hReturn => ?_
  exact absurd (report.noControl_line 13 hReturn) (by decide)

end TaskReport

end DeviceRig
