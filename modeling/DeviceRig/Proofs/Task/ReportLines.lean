import DeviceRig.Proofs.Task.ReportCodec

/-!
# Reports among other lines

The reports of a task are found line by line, up to a line that is no text.
Behind complete lines that are no reports the report of a process is the only
one that it brings.
-/
namespace DeviceRig

open Json

namespace TaskReport

/-- The reports of the task of an index in lines that are still to be read. -/
def ofLines (index : Nat) (lines : List (List UInt8)) : List TaskReport :=
  (((lines.map Utf8.text?).takeWhile Option.isSome).filterMap id).filterMap (ofLine? index)

theorem ofLines_text {line : List UInt8} {text : String} (hText : Utf8.text? line = some text)
    (index : Nat) (rest : List (List UInt8)) :
    ofLines index (line :: rest) = (ofLine? index text).toList ++ ofLines index rest := by
  have hTexts : ofLines index (line :: rest) =
      (text :: ((rest.map Utf8.text?).takeWhile Option.isSome).filterMap id).filterMap
        (ofLine? index) := by
    rw [ofLines, List.map_cons, hText]
    rfl
  rw [hTexts, List.filterMap_cons, ofLines]
  cases ofLine? index text <;> rfl

theorem ofLines_noText {line : List UInt8} (hText : Utf8.text? line = none) (index : Nat)
    (rest : List (List UInt8)) : ofLines index (line :: rest) = [] := by
  rw [ofLines, List.map_cons, hText, List.takeWhile_cons_of_neg (by simp)]
  rfl

theorem index_of_ofLine? {index : Nat} {line : String} {report : TaskReport}
    (h : ofLine? index line = some report) : report.index = index := by
  unfold ofLine? at h
  split at h
  · split at h
    · rename_i hIndex
      cases h
      exact hIndex
    · cases h
  · cases h

theorem index_of_mem_ofLines {index : Nat} {lines : List (List UInt8)} {report : TaskReport}
    (h : report ∈ ofLines index lines) : report.index = index := by
  obtain ⟨line, -, hLine⟩ := List.mem_filterMap.mp h
  exact index_of_ofLine? hLine

theorem ofLines_append {lines : List (List UInt8)}
    (hTexts : ∀ line ∈ lines, (Utf8.text? line).isSome) (index : Nat)
    (rest : List (List UInt8)) :
    ofLines index (lines ++ rest) = ofLines index lines ++ ofLines index rest := by
  induction lines with
  | nil => rfl
  | cons line lines ih =>
    obtain ⟨text, hText⟩ := Option.isSome_iff_exists.mp (hTexts line List.mem_cons_self)
    have hRest := ih fun other hOther => hTexts other (List.mem_cons_of_mem line hOther)
    rw [List.cons_append, ofLines_text hText, ofLines_text hText, hRest, List.append_assoc]

theorem ofLines_line {report : TaskReport} (hPlain : report.Plain) :
    ofLines report.index (Text.byteLines (Utf8.bytes report.line ++ [10])) = [report] := by
  rw [byteLines_line report, ofLines_text (Utf8.text?_bytes report.line), ofLine?,
    decode_line hPlain]
  simp [ofLines]

end TaskReport

/-- What a process may print before its report: complete lines of text that are no reports. -/
structure Chatter (output : List UInt8) : Prop where
  complete : output = [] ∨ ∃ text, output = text ++ [10]
  silent : ∀ line ∈ Text.byteLines output, ∃ text, Utf8.text? line = some text ∧
    ∀ report, TaskReport.decode (Utf8.bytes text) ≠ .ok report

namespace Chatter

variable {output : List UInt8}

theorem byteLines_append (hChatter : Chatter output) (rest : List UInt8) :
    Text.byteLines (output ++ rest) = Text.byteLines output ++ Text.byteLines rest := by
  rcases hChatter.complete with rfl | ⟨text, rfl⟩
  · rfl
  · rw [List.append_assoc, List.singleton_append, Text.byteLines_append]

theorem ofLines_eq_nil (hChatter : Chatter output) (index : Nat) :
    TaskReport.ofLines index (Text.byteLines output) = [] := by
  have hSilent := hChatter.silent
  generalize Text.byteLines output = lines at hSilent
  induction lines with
  | nil => rfl
  | cons line lines ih =>
    obtain ⟨text, hText, hReport⟩ := hSilent line List.mem_cons_self
    have hRest := ih fun other hOther => hSilent other (List.mem_cons_of_mem line hOther)
    have hNone : TaskReport.ofLine? index text = none := by
      unfold TaskReport.ofLine?
      split
      · rename_i report hDecode
        exact absurd hDecode (hReport report)
      · rfl
    rw [TaskReport.ofLines_text hText, hRest, hNone]
    rfl

theorem ofLines_report (hChatter : Chatter output) {report : TaskReport} (hPlain : report.Plain) :
    TaskReport.ofLines report.index
      (Text.byteLines (output ++ (Utf8.bytes report.line ++ [10]))) = [report] := by
  have hTexts : ∀ line ∈ Text.byteLines output, (Utf8.text? line).isSome := by
    intro line hLine
    obtain ⟨text, hText, -⟩ := hChatter.silent line hLine
    exact Option.isSome_of_eq_some hText
  rw [hChatter.byteLines_append, TaskReport.ofLines_append hTexts, hChatter.ofLines_eq_nil,
    TaskReport.ofLines_line hPlain]
  rfl

theorem nil : Chatter [] where
  complete := .inl rfl
  silent := by rintro line ⟨⟩

theorem line {text : String} (hFeed : 10 ∉ Utf8.bytes text) (hReturn : 13 ∉ Utf8.bytes text)
    (hReport : ∀ report, TaskReport.decode (Utf8.bytes text) ≠ .ok report) :
    Chatter (Utf8.bytes text ++ [10]) where
  complete := .inr ⟨Utf8.bytes text, rfl⟩
  silent := by
    rw [Text.byteLines_line hFeed hReturn]
    intro line hLine
    obtain rfl := List.mem_singleton.mp hLine
    exact ⟨text, Utf8.text?_bytes text, hReport⟩

end Chatter

end DeviceRig
