import DeviceRig.Task.Builtin

/-!
Tasks for drills. They end in every way in which a task can end, so that whoever runs tasks can be
tried out.
-/
namespace DeviceRig.Task

open Json

def double : Task := .ofFunction fun args =>
  .ofExcept do
    let count ← args.require (Conversion.integer .signed) 0 "n"
    return .integer (Int.bmod (count * 2) 0x10000000000000000)

def showArguments : Task := fun args place =>
  .quiet (.returned (.object [("args", .list args.args), ("kwargs", .object args.kwargs),
    ("index", .ofOption (fun index => .integer (index : Nat)) place.taskIndex)])) place

def parseInteger : Task := .ofFunction fun args =>
  .ofExcept do
    let text ← args.require Conversion.text 0 "text"
    match Text.natural Text.wordLimit text with
    | .ok count => return .integer count
    | .error flaw => throw (.ofNumberFlaw flaw)

def panicking (text : TaskArgs → Option String) : Task := .ofFunction fun args =>
  .panicked (text args)

def brokenLine : List UInt8 := [0xFF, 0xFE, 10]

def emit : Task := fun args =>
  let found : Except TaskFailure (List String × Option Int) := do
    let lines ← args.get (Conversion.list Conversion.text) 0 "stdout"
    let _ ← args.get (Conversion.list Conversion.text) 1 "stderr"
    let code ← args.get (Conversion.integer .signed) 2 "exit"
    return (lines.getD [], code)
  withArguments found fun (lines, code) place =>
    let broken := if (Members.get? args.kwargs "bad_utf8").isSome then brokenLine else []
    let printed := lines.flatMap (fun line => Utf8.bytes line ++ [10]) ++ broken
    let ending := match code with
      | some code => TaskEnd.left (.ofCode (code % 256).toNat)
      | none => .returned ((Members.get? args.kwargs "value").getD .null)
    ⟨ending, printed, false, place⟩

def abort : Task := .ofFunction fun _ => .left (.ofSignal 9)

def stubbornTime : Duration := .ofSeconds 30

def stubborn : Task := fun _ place =>
  ⟨.returned .null, [], true, { place with rig := place.rig.pass stubbornTime }⟩

def drills : TaskRegistry Task :=
  [("double", double), ("args", showArguments), ("panic_str", panicking fun _ => "wires crossed"),
    ("panic_string", panicking fun args => s!"bad {args.args.length}"),
    ("panic_other", panicking fun _ => none), ("parse_int", parseInteger), ("emit", emit),
    ("abort", abort), ("stubborn", stubborn)].foldl
    (fun registry entry => registry.register entry.1 entry.2) builtins

end DeviceRig.Task
