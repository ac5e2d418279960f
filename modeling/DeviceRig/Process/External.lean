import DeviceRig.Process.Behaviour
import DeviceRig.Process.Tool.Table

/-!
Programs of the system as processes. A program is found by its name or path, and is started with its
arguments, variables and standard input on a machine of its own.
-/
namespace DeviceRig

open Shell

namespace ExternalProgram

/-- What is said to a program or an argument that has the byte in it that ends one. -/
def nulInArgument : Fault := .worded .invalidInput "nul byte found in provided data"

def usualVariables : List (String × String) :=
  [("HOME", "/root"), ("PATH", Tool.defaultPath)]

def bindings (external : ExternalProgram) : List (String × Variable) :=
  (external.environment.reverse ++ usualVariables).map fun (name, value) =>
    (name, ⟨some (ByteText.ofString value), true, false⟩)

def ownPid : Nat := 1000

def words (external : ExternalProgram) : List ByteText :=
  (external.program :: external.arguments).map ByteText.ofString

def process (external : ExternalProgram) : Process :=
  { pid := ownPid, parent := ownPid - 1, ancestors := [], root := ownPid
    name := ByteText.ofString external.program, arguments := []
    bindings := external.bindings, functions := [], aliases := [], options := []
    traps := [], unreachable := [], descriptors := [(0, 0), (1, 1), (2, 2)], directory := "/"
    mask := 0o022, status := 0, latestJob := none, caught := [], interrupted := none
    reapedAt := 0, loops := 0, calls := 0, locals := [], optionPlace := (1, 0)
    substituted := none }

def machine (external : ExternalProgram) (signals : List TimedSignal) (horizon : Nat) : Machine :=
  { now := 0, horizon, steps := 0, files := Tool.install external.files
    channels := #[.source [(0, ByteText.ofBytes external.input)] (some 0), .sink #[] 0 true,
      .sink #[] 0 true]
    signals := signals.map fun signal => ⟨ownPid, signal.time, signal.signal⟩
    jobs := [], nextPid := ownPid + 1, documents := #[], printFailed := false
    process := external.process }

def refusal? (external : ExternalProgram) : Option Fault :=
  if (external.program :: external.arguments).any fun text => text.contains '\x00' then
    some nulInArgument
  else
    let name := ByteText.ofString external.program
    match (Script.findExecutable name).run (external.machine [] 0) with
    | (.ok (.error fault), _) => some fault
    | _ => none

def maxDepth : Nat := 20000

def execution (external : ExternalProgram) : Script (Option ProcessEnd) := do
  let runner := Script.runnerOf Tool.all maxDepth
  let status ← Script.endingOf (runner.program external.words)
  let ended := (← get).now
  Script.settle runner fun _ => true
  return status.map fun status => ⟨ended, status⟩

def behaviour (external : ExternalProgram) : ProcessBehaviour := fun signals horizon =>
  let (ending, after) := external.execution.run (external.machine signals horizon)
  let pieces := match after.channels[1]? with
    | some (.sink pieces ..) => pieces.toList
    | _ => []
  let inOrder := pieces.mergeSort fun a b => decide (a.1 ≤ b.1)
  ⟨inOrder.map fun (time, text) => (time, text.toBytes), (ending.toOption).getD none⟩

def start (external : ExternalProgram) : Except Fault ProcessBehaviour :=
  match external.refusal? with
  | none => .ok external.behaviour
  | some fault => .error fault

end ExternalProgram

end DeviceRig
