import DeviceRig.Program.Commands

/-!
The whole program: with the worker variable set it is a task process, and otherwise it runs the
command that its arguments ask for.
-/
namespace DeviceRig.Program

def variableNames : List String :=
  [LinkOptions.portVariable, LinkOptions.rateVariable, TaskProgram.workerVariable,
    TaskProgram.indexVariable]

structure Surroundings where
  arguments : List String
  environment : List (String × String)
  input : List UInt8
  rig : Rig
  callers : List (List UInt8)

structure ProgramRun where
  code : Nat
  printed : String
  error : Option String
  served : List (List UInt8)
  rig : Rig

namespace Surroundings

def valueOf? (surroundings : Surroundings) (name : String) : Option String :=
  surroundings.environment.reverse.lookup name

def isWorker (surroundings : Surroundings) : Bool :=
  (surroundings.valueOf? TaskProgram.workerVariable).isSome

def batchPath? (surroundings : Surroundings) : Option String :=
  match Invocation.parse surroundings.valueOf? surroundings.arguments with
  | .ok ⟨_, .run batch ..⟩ => some batch
  | _ => none

def readsInput (surroundings : Surroundings) : Bool :=
  surroundings.isWorker || surroundings.batchPath?.any isInputPath

end Surroundings

namespace ProgramRun

def ended (code : Nat) (printed : String) (rig : Rig) : ProgramRun := ⟨code, printed, none, [], rig⟩

def ofCommand (run : CommandRun) (served : List (List UInt8)) : ProgramRun :=
  match run.ending with
  | .ok code => ⟨code, run.printed, none, served, run.rig⟩
  | .error error => ⟨error.code, run.printed, some error.message, served, run.rig⟩

def errorLine (run : ProgramRun) : Option String :=
  run.error.map fun message => "error: " ++ message ++ "\n"

end ProgramRun

def taskIndex (surroundings : Surroundings) : Except BatchError Nat :=
  match surroundings.valueOf? TaskProgram.indexVariable with
  | none => .error (.badEnvironment (TaskProgram.indexVariable ++ " is not set"))
  | some text =>
    match countOf? text with
    | some index => .ok index
    | none =>
      .error (.badEnvironment
        (TaskProgram.indexVariable ++ " is not an index: " ++ Text.quoted text))

def runTask (surroundings : Surroundings) : ProgramRun :=
  let run : Except BatchError WorkerRun := do
    let index ← taskIndex surroundings
    Task.builtins.runWorker .usual index surroundings.input surroundings.rig
  match run with
  | .error _ => .ended ProgramError.internal "" surroundings.rig
  | .ok run =>
    .ended (CommandRun.codeOf run.succeeded) (Utf8.lossy (run.printed ++ run.reportLine)) run.rig

def runCommand (invocation : Invocation) (surroundings : Surroundings) : ProgramRun :=
  let format := invocation.format
  let rig := surroundings.rig
  match invocation.command with
  | .call link service method arguments qualified =>
    .ofCommand (runCall link service method arguments qualified format rig) []
  | .echo link text => .ofCommand (runEcho link text format rig) []
  | .logs link window => .ofCommand (runLogs link window format rig) []
  | .run batch timeout terminateGrace collect =>
    .ofCommand (runBatch batch timeout terminateGrace collect surroundings.input format rig) []
  | .simulate path limit =>
    let (run, served) := runSimulate path limit surroundings.callers format rig
    .ofCommand run served
  | .version extended =>
    .ended ProgramError.success (if extended then extendedVersion else versionLine) rig

def run (surroundings : Surroundings) : ProgramRun :=
  if surroundings.isWorker then runTask surroundings
  else
    match Invocation.parse surroundings.valueOf? surroundings.arguments with
    | .ok invocation => runCommand invocation surroundings
    | .error .help => .ended ProgramError.success "" surroundings.rig
    | .error .version => .ended ProgramError.success versionLine surroundings.rig
    | .error .misuse => .ended ProgramError.usageShown "" surroundings.rig

end DeviceRig.Program
