import DeviceRig.Exchange.Bytes
import DeviceRig.Device.Script
import DeviceRig.Rig.Session

/-!
Devices and settings in descriptions.
-/
namespace DeviceRig.Exchange

open Json

def timeAt (description : Value) (name : String) (default : Duration) : Duration :=
  match description.member name with
  | .number n => .ofMilliseconds (integerOf (.number n)).toNat
  | _ => default

def workerSettingsOf (config : Value) (max chunk : String) : WorkerSettings :=
  let usual := WorkerSettings.usual
  ⟨timeAt config "poll_ms" usual.pollInterval, timeAt config "join_ms" usual.joinTimeout,
    natAtOr config chunk usual.chunkSize, natAtOr config max usual.maxPayload⟩

def serviceOf : Value → Service Members
  | .text "nack" => .always .nack
  | .text "ignore" => .always .ignore
  | .text "method" => .methodName
  | .text "kwargs" => .arguments
  | reply =>
    if has reply "json" then .always (.json (reply.member "json"))
    else .always (.ack (bytesAt reply "ack"))

def simulatorOf (device : Value) : Simulator Members :=
  let start : Simulator Members :=
    if textAt device "sim" = "demo" then .demo else .basic
  (listAt device "services").foldl (fun simulator entry =>
    let service := serviceOf (entry.member "reply")
    if has entry "automation" then simulator.withAutomation (textAt entry "automation") service
    else simulator.withService (textAt entry "service") service)
    (start.withBootLog (textsAt device "boot_log"))

def actionOf (description : Value) : ScriptAction :=
  if has description "raw" then .raw (bytesAt description "raw")
  else if has description "frame" then
    let (address, payload) := addressed (description.member "frame")
    .frame address payload
  else if has description "reply" then
    match listAt description "reply" with
    | [.bool ack, payload] => .reply ack (bytesOf payload) (natAt description "id_add")
    | _ => .hangUp
  else .hangUp

def scriptOf (device : Value) : DeviceScript :=
  ⟨(listAt device "connect").map actionOf,
    (listAt device "requests").map fun actions => (itemsOf actions).map actionOf, []⟩

def servedDeviceOf (device : Value) : ServedDevice :=
  if flagAt device "script" then .scripted (scriptOf device) else .simulated (simulatorOf device) []

/-- A rig with files and, if one is described, a device at a path. -/
def rigOf (files : FileTree) (path : String) (device : Value) : Rig :=
  if isNull device then .new files
  else (Rig.new files).withDevice path (servedDeviceOf device) (natAtOr device "connections" 1)

def mediaOf (config : Value) : Media :=
  let media := config.member "capabilities"
  if isNull media then .all else ⟨flagAt media "serial", flagAt media "socket"⟩

def transportSettingsOf (config : Value) : TransportSettings :=
  let call : CallSettings :=
    ⟨timeAt config "call_timeout_ms" (.ofSeconds 5),
      if flagAt config "nack_on_timeout" then .nack else .error,
      (textAt? config "namespace").getD Packet.automationNamespace⟩
  ⟨workerSettingsOf config "max_frame" "chunk", call, natAtOr config "log_capacity" 1024⟩

end DeviceRig.Exchange
