import DeviceRig.Json.Printer
import DeviceRig.Json.Tagged
import DeviceRig.Task.Failure

/-!
What a task process reports: one line of JSON with the index of its task and either the value that
the task returned or its failure.
-/
namespace DeviceRig

open Json

inductive TaskReport where
  | result (index : Nat) (value : Value)
  | failed (index : Nat) (failure : TaskFailure)
deriving BEq, Repr, Inhabited

namespace TaskReport

def index : TaskReport → Nat
  | .result index _ | .failed index _ => index

def toValue : TaskReport → Value
  | .result index value =>
    .object [("type", .text "result"), ("index", .integer index), ("value", value)]
  | .failed index failure =>
    .object [("type", .text "error"), ("index", .integer index), ("kind", .text failure.kind),
      ("message", .text failure.message)]

def line (report : TaskReport) : String :=
  report.toValue.compact

structure Draft where
  index : Option Nat
  value : Option Value
  kind : Option String
  message : Option String

def Draft.blank : Draft := ⟨none, none, none, none⟩

def indexField : VariantField Draft :=
  ⟨"index", false, fun draft => draft.index.isSome, fun value draft => do
    return { draft with index := some (← Conversion.natural .index value) }⟩

def valueField : VariantField Draft :=
  ⟨"value", false, fun draft => draft.value.isSome, fun value draft => do
    return { draft with value := some (← Conversion.any value) }⟩

def kindField : VariantField Draft :=
  ⟨"kind", false, fun draft => draft.kind.isSome, fun value draft => do
    return { draft with kind := some (← Conversion.text value) }⟩

def messageField : VariantField Draft :=
  ⟨"message", false, fun draft => draft.message.isSome, fun value draft => do
    return { draft with message := some (← Conversion.text value) }⟩

def kinds : List String := ["result", "error"]

def ofContent (kind : String) (content : Content) : Except Mismatch TaskReport :=
  if kind = "result" then do
    let draft ← content.fill "WorkerMessage::Result" [indexField, valueField] .blank
    return .result (draft.index.getD 0) (draft.value.getD .null)
  else do
    let draft ← content.fill "WorkerMessage::Error" [indexField, kindField, messageField] .blank
    return .failed (draft.index.getD 0) ⟨draft.kind.getD "", draft.message.getD ""⟩

def reader : Reader TaskReport := do
  let (kind, content) ← Reader.tagged "WorkerMessage" kinds
  Reader.accept (ofContent kind content)

def decode (bytes : List UInt8) : Except JsonError TaskReport :=
  (Reader.only reader).run .whole bytes

end TaskReport

end DeviceRig
