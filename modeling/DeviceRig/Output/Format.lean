import DeviceRig.Output.Table
import DeviceRig.Task.Outcome
import DeviceRig.Task.Spec

/-!
What the program prints: replies of calls, device log lines and outcomes of batches, each as JSON,
as a table or as plain lines.
-/
namespace DeviceRig.Output

open Json

inductive Format where
  | json
  | table
  | pretty
deriving DecidableEq, Repr, Inhabited

/-- The format where none was asked for and the output is no terminal. -/
def Format.usual : Format := .json

def Format.ofName? : String → Option Format
  | "json" => some .json
  | "table" => some .table
  | "pretty" => some .pretty
  | _ => none

def line (text : String) : String := text ++ "\n"

def jsonLine (value : Value) : String := line value.compact

structure ReplyReport where
  address : String
  service : String
  method : String
  ack : Bool
  payload : Value
deriving Repr, Inhabited

def boolText (value : Bool) : String := if value then "true" else "false"

def ReplyReport.print (reply : ReplyReport) : Format → String
  | .json =>
    jsonLine (.object [("address", .text reply.address), ("service", .text reply.service),
      ("method", .text reply.method), ("ack", .bool reply.ack), ("payload", reply.payload)])
  | .table =>
    line (drawTable ["SERVICE", "METHOD", "ACK", "PAYLOAD"]
      [[reply.service, reply.method, boolText reply.ack, reply.payload.preview]])
  | .pretty =>
    line (s!"{reply.service}.{reply.method} ack={boolText reply.ack} payload="
      ++ reply.payload.preview)

def printLogLine (address text : String) : Format → String
  | .json => jsonLine (.object [("address", .text address), ("line", .text text)])
  | .table | .pretty => line text

structure TaskRow where
  index : Nat
  entryPoint : String
  result : Value
  error : Option String
deriving Repr, Inhabited

def TaskRow.toValue (row : TaskRow) : Value :=
  .object [("index", .integer row.index), ("entry_point", .text row.entryPoint),
    ("result", row.result), ("error", .ofOption .text row.error)]

def TaskRow.cells (row : TaskRow) : List String :=
  [toString row.index, row.entryPoint, row.result.preview, row.error.getD ""]

def TaskRow.pretty (row : TaskRow) : String :=
  match row.error with
  | none => s!"[{row.index}] {row.entryPoint} -> {row.result.preview}"
  | some error => s!"[{row.index}] {row.entryPoint} !! {error}"

def taskRows (specs : List TaskSpec) (outcome : BatchOutcome) : List TaskRow :=
  let slots := specs.zip (outcome.results.zip outcome.errors)
  slots.mapIdx fun index (spec, result, error) =>
    ⟨index, spec.entryPoint, result.toValue, error.map TaskFailure.display⟩

def printOutcome (specs : List TaskSpec) (outcome : BatchOutcome) (format : Format) : String :=
  let rows := taskRows specs outcome
  match format with
  | .json => jsonLine (.list (rows.map TaskRow.toValue))
  | .table => line (drawTable ["#", "TASK", "RESULT", "ERROR"] (rows.map TaskRow.cells))
  | .pretty => String.join (rows.map fun row => line row.pretty)

end DeviceRig.Output
