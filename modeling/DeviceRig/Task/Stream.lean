import DeviceRig.Log.Level
import DeviceRig.Task.Report
import DeviceRig.Text.Blank
import DeviceRig.Text.Lines

/-!
What a task process writes. Reports stand among other lines on its standard output and count only
if they carry the index of the task; log records stand on its standard error. Both streams are
read up to the first line that is no text.
-/
namespace DeviceRig

open Json

/-- The report that a line of the task of an index holds, if it holds one. -/
def TaskReport.ofLine? (index : Nat) (line : String) : Option TaskReport :=
  match TaskReport.decode (Utf8.bytes line) with
  | .ok report => if report.index = index then some report else none
  | .error _ => none

/-- The reports of the task of an index in what its process wrote. -/
def TaskReport.ofOutput (index : Nat) (output : List UInt8) : List TaskReport :=
  (Text.readableLines output).filterMap (TaskReport.ofLine? index)

/-- A log record of a task as its parent passes it on. A line that was no record has neither an
origin nor fields. -/
structure TaskLogRecord where
  level : LogLevel
  task : Nat
  message : String
  origin : Option String
  fields : Option String
deriving DecidableEq, Repr, Inhabited

namespace TaskLogRecord

def fieldText (field : String × Value) : String :=
  field.1 ++ "=" ++ field.2.preview

/-- The message among the fields of a record, and the text of the other fields. -/
def splitFields : Value → String × String
  | .object fields =>
    (((Members.get? fields "message").map Value.preview).getD "",
      String.intercalate " "
        ((fields.filter fun field => field.1 ≠ "message").map fieldText))
  | _ => ("", "")

/-- The record that a line of standard error holds; a blank line holds none. -/
def ofLine? (task : Nat) (line : String) : Option TaskLogRecord :=
  if (Text.trimChars line.toList).isEmpty then none
  else
    match Json.parse line with
    | .ok (.object members) =>
      let record := Value.object members
      let (message, fields) := splitFields (record.member "fields")
      let level := LogLevel.ofLabel (((record.member "level").asText?).getD "INFO")
      some ⟨level, task, message, some (((record.member "target").asText?).getD ""), some fields⟩
    | .ok _ | .error _ => some ⟨.warn, task, line, none, none⟩

def ofOutput (task : Nat) (output : List UInt8) : List TaskLogRecord :=
  (Text.readableLines output).filterMap (ofLine? task)

end TaskLogRecord

end DeviceRig
