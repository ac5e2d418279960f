import DeviceRig.Call.Payload
import DeviceRig.Task.Run
import DeviceRig.Text.Lines

/-!
The tasks that a batch may name. Tasks for a device take the address of its link first.
-/
namespace DeviceRig.Task

open Json

def addressArgument (args : TaskArgs) : Except TaskFailure LinkAddress := do
  let text ← args.require Conversion.text 0 "address"
  match LinkAddress.parse text with
  | .ok address => return address
  | .error error => throw (TaskArgs.argumentError ("argument \"address\": " ++ error.message))

def spanOf (seconds : Float) : Except TaskFailure Duration :=
  match Duration.ofDecimal seconds with
  | .ok span => .ok span
  | .error flaw =>
    .error (TaskArgs.argumentError
      s!"invalid duration {Decimal.plainLayout.text seconds}: {flaw.message}")

def withArguments {α : Type} (found : Except TaskFailure α) (run : α → RigSession → TaskRun)
    (place : RigSession) : TaskRun :=
  match found with
  | .ok arguments => run arguments place
  | .error failure => .failing failure place

def ofTransport {α : Type} (write : α → Value)
    (result : Except TransportError α × RigSession) : TaskRun :=
  match result with
  | (.ok answer, place) => .quiet (.returned (write answer)) place
  | (.error error, place) => .failing (.ofTransport error) place

def replyValue (reply : Reply) : Value :=
  .object [("ack", .bool reply.ack), ("payload", payloadValue reply.payload)]

/-- One call in the namespace of the session; the arguments by name that are left over are those of
the call. -/
def rpc : Task := fun args =>
  let found : Except TaskFailure (LinkAddress × String × String × Members) := do
    let address ← addressArgument args
    let service ← args.require Conversion.text 1 "service"
    let method ← args.require Conversion.text 2 "method"
    return (address, service, method, args.remaining ["address", "service", "method"])
  withArguments found fun (address, service, method, kwargs) place =>
    ofTransport replyValue (place.withOpen address (Station.call service method (.object kwargs)))

def echoValue (answer : Bool × String) : Value :=
  .object [("ack", .bool answer.1), ("msg", .text answer.2)]

def echo : Task := fun args =>
  let found : Except TaskFailure (LinkAddress × String) := do
    let address ← addressArgument args
    let text ← args.require Conversion.text 1 "msg"
    return (address, text)
  withArguments found fun (address, text) place =>
    ofTransport echoValue (place.echo address text)

def drainLog : Station.Step (List UInt8) := fun station rig =>
  let (text, transport) := (List.range station.transport.logs.size).foldl
    (fun (text, transport) _ =>
      let (chunk, transport) := Transport.readLog transport
      (text ++ chunk, transport)) (([] : List UInt8), station.transport)
  (text, { station with transport }, rig)

def linesValue (text : List UInt8) : Value :=
  .list ((Text.lines (Utf8.lossy text)).map .text)

def logWindow : Float := 1.0

def logs : Task := fun args =>
  let found : Except TaskFailure (LinkAddress × Duration) := do
    let address ← addressArgument args
    let seconds := (← args.get Conversion.decimal 1 "seconds").getD logWindow
    return (address, ← spanOf seconds)
  withArguments found fun (address, window) place =>
    ofTransport linesValue (place.withOpen address fun station rig =>
      if window.nanoseconds = 0 then (.ok [], station, rig)
      else
        let (station, rig) := station.meet rig
        let (text, station, rig) := drainLog station rig
        (.ok text, station, rig.pass window))

def sleep : Task := fun args =>
  let found : Except TaskFailure (Float × Duration) := do
    let seconds ← args.require Conversion.decimal 0 "seconds"
    return (seconds, ← spanOf seconds)
  withArguments found fun (seconds, span) place =>
    .quiet (.returned (.decimal seconds)) { place with rig := place.rig.pass span }

def defaultFailure : TaskFailure := ⟨"TaskError", "task failed"⟩

def fail : Task := .ofFunction fun args =>
  let found : Except TaskFailure Value := do
    let message := (← args.get Conversion.text 0 "message").getD defaultFailure.message
    let kind := (← args.get Conversion.text 1 "kind").getD defaultFailure.kind
    throw ⟨kind, message⟩
  .ofExcept found

def builtins : TaskRegistry Task :=
  ((((TaskRegistry.empty.register "rpc" rpc).register "echo" echo).register "logs" logs).register
    "sleep" sleep).register "fail" fail

end DeviceRig.Task
