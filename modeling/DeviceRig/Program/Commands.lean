import DeviceRig.Call.Payload
import DeviceRig.Program.Invocation
import DeviceRig.Program.LogWatch
import DeviceRig.Task.Builtin
import DeviceRig.Task.Executor

/-!
The commands at a rig. A command prints, and ends with an exit code or an error; what it printed
before an error stays.
-/
namespace DeviceRig.Program

open Json

structure CommandRun where
  printed : String
  ending : Except ProgramError Nat
  rig : Rig

namespace CommandRun

def failing (error : ProgramError) (rig : Rig) : CommandRun := ⟨"", .error error, rig⟩

def finishing (printed : String) (code : Nat) (rig : Rig) : CommandRun := ⟨printed, .ok code, rig⟩

def codeOf (done : Bool) : Nat := if done then ProgramError.success else ProgramError.failure

end CommandRun

namespace LinkOptions

def openLink (options : LinkOptions) (rig : Rig) :
    Except ProgramError (LinkAddress × Station) × Rig :=
  match options.settings with
  | .error error => (.error error, rig)
  | .ok (address, settings) =>
    match (Station.new address settings .all).openLink rig with
    | (.error error, _, rig) => (.error (.ofTransport "open failed" error), rig)
    | (.ok (), station, rig) => (.ok (address, station), rig)

def withOpen {α : Type} (options : LinkOptions) (use : Station.Step α) (rig : Rig)
    (conclude : LinkAddress → α → Rig → CommandRun) : CommandRun :=
  match options.openLink rig with
  | (.error error, rig) => .failing error rig
  | (.ok (address, station), rig) =>
    let (answer, station, rig) := use station rig
    let (_, _, rig) := station.close rig
    conclude address answer rig

end LinkOptions

def runCall (link : LinkOptions) (service method : String) (arguments : List String)
    (qualified : Bool) (format : Output.Format) (rig : Rig) : CommandRun :=
  match parseKwargs arguments with
  | .error error => .failing error rig
  | .ok kwargs =>
    let step := if qualified then Station.callQualified else Station.call
    link.withOpen (step service method (.object kwargs)) rig fun address answer rig =>
      match answer with
      | .error error => .failing (.ofTransport "call failed" error) rig
      | .ok reply =>
        let report : Output.ReplyReport :=
          ⟨address.display, service, method, reply.ack, payloadValue reply.payload⟩
        .finishing (report.print format) (CommandRun.codeOf reply.ack) rig

def runEcho (link : LinkOptions) (text : String) (format : Output.Format) (rig : Rig) :
    CommandRun :=
  link.withOpen (Station.echo text) rig fun address answer rig =>
    match answer with
    | .error error => .failing (.ofTransport "echo failed" error) rig
    | .ok (ack, echoed) =>
      let report : Output.ReplyReport :=
        ⟨address.display, Packet.echoService, Packet.echoMethod, ack,
          .object [("msg", .text echoed)]⟩
      .finishing (report.print format) (CommandRun.codeOf (ack && echoed = text)) rig

/-- Looks at the log so many times, or until the link has closed. -/
def watchLog (watch : LogWatch) : Nat → Station.Step (LogWatch × Bool)
  | 0 => fun station rig => ((watch, false), station, rig)
  | looks + 1 => fun station rig =>
    let (chunk, station, rig) := station.readLog rig
    match watch.look chunk station.isOpen with
    | none => ((watch, true), station, rig)
    | some watch => watchLog watch looks station rig

/-- Looks until nothing more comes: the watch, and whether the link has closed. -/
def watchWholeLog : Station.Step (LogWatch × Bool) := fun station rig =>
  let (station, rig) := station.meet rig
  watchLog .start (station.transport.logs.size + 1) station rig

/-- A watch that the device does not end lasts for its window, or until it is interrupted. -/
def runLogs (link : LinkOptions) (window : Option String) (format : Output.Format) (rig : Rig) :
    CommandRun :=
  match window.mapM parseDuration with
  | .error error => .failing error rig
  | .ok window =>
    link.withOpen watchWholeLog rig fun address (watch, closed) rig =>
      let address := address.display
      let printed := String.join
        (watch.lines.map fun line => Output.printLogLine address line format)
      if closed then
        ⟨printed, .error ⟨ProgramError.transportFailed, watch.closedMessage address⟩, rig⟩
      else .finishing printed ProgramError.success (rig.pass (window.getD ⟨0⟩))

def inputPath : String := "-"

def isInputPath (path : String) : Bool :=
  LinkAddress.components path = LinkAddress.components inputPath

def notText : Fault := .worded .invalidData "stream did not contain valid UTF-8"

def readBatch (path : String) (input : List UInt8) (files : FileTree) :
    Except ProgramError (List TaskSpec) := do
  let bytes ← match if isInputPath path then .ok input else files.readFile path with
    | .ok bytes => pure bytes
    | .error fault => throw (.ofFault s!"cannot read batch {path}" fault)
  if (Utf8.text? bytes).isNone then throw (.ofFault s!"cannot read batch {path}" notText)
  match TaskSpec.decodeBatch bytes with
  | .ok specs => return specs
  | .error error => throw ⟨ProgramError.dataInvalid, "invalid batch: " ++ error.message⟩

def runBatch (path timeout terminateGrace : String) (collect : Bool) (input : List UInt8)
    (format : Output.Format) (rig : Rig) : CommandRun :=
  let asked : Except ProgramError (List TaskSpec × Duration × Duration) := do
    let specs ← readBatch path input rig.files
    let timeout ← parseDuration timeout
    return (specs, timeout, ← parseDuration terminateGrace)
  match asked with
  | .error error => .failing error rig
  | .ok (specs, deadline, terminate) =>
    let grace := { Grace.usual with terminate }
    let policy := if collect then ErrorPolicy.collect else .raise
    match executeBatch (.worker Task.builtins .usual) specs deadline grace policy rig with
    | (.error error, rig) => .failing (.ofBatch "batch failed" error) rig
    | (.ok outcome, rig) =>
      let code := CommandRun.codeOf outcome.isSuccess
      .finishing (Output.printOutcome specs outcome format) code rig

def programName : String := "devlink"

def programVersion : String := "0.1.0"

def versionLine : String := Output.line (programName ++ " " ++ programVersion)

def untold : String := "*"

def extendedVersion : String :=
  String.join (["name: " ++ programName, "version: " ++ programVersion, "target: " ++ untold,
    "target_os: " ++ untold, "target_arch: " ++ untold,
    "media: serial=" ++ Output.boolText Media.all.serial ++ ", socket="
      ++ Output.boolText Media.all.socket,
    "tasks: " ++ ", ".intercalate Task.builtins.names].map Output.line)

/-- Serves the demonstration device to those who connect, each sending some bytes: what each of
them is sent. -/
def serveCallers (callers : List (List UInt8)) : List (List UInt8) :=
  let (_, sent) := callers.foldl (fun (state, sent) received =>
    let served := Simulator.demo.serve state received
    (served.state, sent ++ [served.sent])) (([] : Members), ([] : List (List UInt8)))
  sent

def listeningLine (path : String) (limit : Option Nat) : Output.Format → String
  | .json =>
    Output.jsonLine (.object [("address", .text (LinkAddress.socket path).display),
      ("max_connections", .ofOption (fun limit => .integer limit) limit)])
  | .table | .pretty =>
    Output.line ("simulating device on " ++ (LinkAddress.socket path).display)

/-- Serves a simulated device on a socket, and takes the socket away at its end. -/
def runSimulate (path : String) (limit : Option Nat) (callers : List (List UInt8))
    (format : Output.Format) (rig : Rig) : CommandRun × List (List UInt8) :=
  match Listener.bind rig.files path with
  | .error error => (.failing (.ofLink "bind failed" error) rig, [])
  | .ok (listener, files) =>
    let accepted := match limit with
      | some limit => callers.take limit
      | none => callers
    (.finishing (listeningLine path limit format) ProgramError.success
      { rig with files := listener.drop files }, serveCallers accepted)

end DeviceRig.Program
