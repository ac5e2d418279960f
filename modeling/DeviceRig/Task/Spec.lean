import DeviceRig.Json.Printer
import DeviceRig.Json.Record
import DeviceRig.Text.Quoted
import DeviceRig.Task.Failure

/-!
What a task is asked to do: the name of its entry point, arguments by position and arguments by
name. A spec crosses process boundaries as JSON. An argument is looked up by name first and then by
position.
-/
namespace DeviceRig

open Json

structure TaskSpec where
  entryPoint : String
  args : List Value
  kwargs : Members
deriving BEq, Repr, Inhabited

namespace TaskSpec

def new (entryPoint : String) : TaskSpec := ⟨entryPoint, [], []⟩

def arg (spec : TaskSpec) (value : Value) : TaskSpec :=
  { spec with args := spec.args ++ [value] }

def kwarg (spec : TaskSpec) (name : String) (value : Value) : TaskSpec :=
  { spec with kwargs := Members.put spec.kwargs name value }

def toValue (spec : TaskSpec) : Value :=
  .object [("entry_point", .text spec.entryPoint), ("args", .list spec.args),
    ("kwargs", .object spec.kwargs)]

structure Draft where
  entryPoint : Option String
  args : Option (List Value)
  kwargs : Option Members

def fields : List (RecordField Draft) := [
  ⟨"entry_point", false, fun draft => draft.entryPoint.isSome, fun _ => do
    let text ← Reader.wantedText
    return fun draft => { draft with entryPoint := some text }⟩,
  ⟨"args", true, fun draft => draft.args.isSome, fun depth => do
    let items ← Reader.wantedList Reader.value depth
    return fun draft => { draft with args := some items }⟩,
  ⟨"kwargs", true, fun draft => draft.kwargs.isSome, fun depth => do
    let members ← Reader.wantedObject depth
    return fun draft => { draft with kwargs := some members }⟩]

def reader (depth : Nat) : Reader TaskSpec := do
  let draft ← Reader.record "TaskSpec" fields ⟨none, none, none⟩ depth
  return ⟨draft.entryPoint.getD "", draft.args.getD [], draft.kwargs.getD []⟩

def decode (source : Source) (bytes : List UInt8) : Except JsonError TaskSpec :=
  (Reader.only (reader maxDepth)).run source bytes

def decodeBatch (bytes : List UInt8) : Except JsonError (List TaskSpec) :=
  (Reader.only (Reader.wantedList reader maxDepth)).run .whole bytes

end TaskSpec

structure TaskArgs where
  args : List Value
  kwargs : Members
deriving BEq, Repr, Inhabited

namespace TaskArgs

def ofSpec (spec : TaskSpec) : TaskArgs := ⟨spec.args, spec.kwargs⟩

def argumentError (text : String) : TaskFailure :=
  ⟨"ArgumentError", text⟩

def find? (args : TaskArgs) (position : Nat) (name : String) : Option Value :=
  (Members.get? args.kwargs name).or args.args[position]?

def get {α : Type} (args : TaskArgs) (read : Conversion α) (position : Nat) (name : String) :
    Except TaskFailure (Option α) :=
  match args.find? position name with
  | none => .ok none
  | some value =>
    match read value with
    | .ok found => .ok (some found)
    | .error data => .error (argumentError s!"argument {Text.quoted name}: {data.message}")

def require {α : Type} (args : TaskArgs) (read : Conversion α) (position : Nat) (name : String) :
    Except TaskFailure α := do
  match ← args.get read position name with
  | some found => return found
  | none => throw (argumentError s!"missing required argument {Text.quoted name}")

/-- The arguments by name that were not consumed, to be passed on. -/
def remaining (args : TaskArgs) (consumed : List String) : Members :=
  Members.without args.kwargs consumed

end TaskArgs

end DeviceRig
