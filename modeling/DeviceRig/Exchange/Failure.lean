import DeviceRig.Exchange.Fields
import DeviceRig.Json.Nested
import DeviceRig.Link.Error
import DeviceRig.Program.Exit
import DeviceRig.Task.Error
import DeviceRig.Transport.Error

/-!
Failures in descriptions and records. Every kind of failure has a name, and that of a failure inside
another one follows behind a slash.
-/
namespace DeviceRig.Exchange

open Json

def faultKinds : List (String × FaultKind) := [
  ("NotFound", .notFound), ("PermissionDenied", .permissionDenied),
  ("ConnectionRefused", .connectionRefused), ("ConnectionReset", .connectionReset),
  ("HostUnreachable", .hostUnreachable), ("NetworkUnreachable", .networkUnreachable),
  ("ConnectionAborted", .connectionAborted), ("NotConnected", .notConnected),
  ("AddrInUse", .addrInUse), ("AddrNotAvailable", .addrNotAvailable),
  ("NetworkDown", .networkDown), ("BrokenPipe", .brokenPipe), ("AlreadyExists", .alreadyExists),
  ("WouldBlock", .wouldBlock), ("NotADirectory", .notADirectory), ("IsADirectory", .isADirectory),
  ("DirectoryNotEmpty", .directoryNotEmpty), ("ReadOnlyFilesystem", .readOnlyFilesystem),
  ("FilesystemLoop", .filesystemLoop), ("StaleNetworkFileHandle", .staleNetworkFileHandle),
  ("InvalidInput", .invalidInput), ("InvalidData", .invalidData), ("TimedOut", .timedOut),
  ("WriteZero", .writeZero), ("StorageFull", .storageFull), ("NotSeekable", .notSeekable),
  ("QuotaExceeded", .quotaExceeded), ("FileTooLarge", .fileTooLarge),
  ("ResourceBusy", .resourceBusy), ("ExecutableFileBusy", .executableFileBusy),
  ("Deadlock", .deadlock), ("CrossesDevices", .crossesDevices), ("TooManyLinks", .tooManyLinks),
  ("InvalidFilename", .invalidFilename), ("ArgumentListTooLong", .argumentListTooLong),
  ("Interrupted", .interrupted), ("Unsupported", .unsupported),
  ("UnexpectedEof", .unexpectedEof), ("OutOfMemory", .outOfMemory), ("InProgress", .inProgress),
  ("Other", .other), ("Uncategorized", .uncategorized)]

def kindOf (name : String) : FaultKind := (faultKinds.lookup name).getD .other

def faultOf : Value → Fault
  | .text name => .plain (kindOf name)
  | .number n => .system (integerOf (.number n))
  | .list [.text name, .text message] => .worded (kindOf name) message
  | _ => .plain .other

def faultAt (description : Value) : Fault := faultOf (description.member "io")

def failure (kind message : String) : Value :=
  record [("error", .text kind), ("message", .text message)]

def categoryName : Category → String
  | .malformed => "Syntax"
  | .early => "Eof"
  | .data => "Data"

def jsonKind (error : JsonError) : String := "Json/" ++ categoryName error.category

def frameKind : FrameError → String
  | .payloadTooLarge .. => "PayloadTooLarge"
  | .stream _ => "Io"
  | .closed => "ConnectionClosed"

def linkKind : LinkError → String
  | .notOpened .. => "Open"
  | .notConfigured .. => "Configure"
  | .unsupportedBaudRate _ => "UnsupportedBaudRate"
  | .busy _ => "Busy"
  | .notBound .. => "Bind"
  | .notAccepted _ => "Accept"
  | .pathTooLong .. => "PathTooLong"
  | .invalidAddress _ => "InvalidAddress"
  | .unsupported _ => "Unsupported"
  | .stream _ => "Io"

def callKind : CallError → String
  | .frame error => "Frame/" ++ frameKind error
  | .link error => "Link/" ++ linkKind error
  | .json error => jsonKind error
  | .invalidArguments _ => "InvalidArguments"
  | .timedOut .. => "Timeout"
  | .disconnected => "Disconnected"

def workerKind : WorkerError → String
  | .notSpawned _ => "Spawn"
  | .joinTimedOut _ => "JoinTimeout"
  | .panicked => "Panicked"

def transportKind : TransportError → String
  | .linkUnavailable error => "LinkUnavailable/" ++ linkKind error
  | .link error => "Link/" ++ linkKind error
  | .worker error => "Worker/" ++ workerKind error
  | .call error => "Rpc/" ++ callKind error
  | .alreadyOpen => "AlreadyOpen"
  | .notOpen => "NotOpen"
  | .notClosed .. => "Close"

def batchKind : BatchError → String
  | .notSpawned .. => "Spawn"
  | .badEnvironment _ => "WorkerEnv"
  | .tasksFailed _ => "TaskFailures"
  | .stream _ => "Io"
  | .json error => jsonKind error

def jsonOut (error : JsonError) : Value := failure (jsonKind error) error.message

def frameErrorOut (error : FrameError) : Value := failure (frameKind error) error.message

def linkErrorOut (error : LinkError) : Value := failure (linkKind error) error.message

def callErrorOut (error : CallError) : Value := failure (callKind error) error.message

def workerErrorOut (error : WorkerError) : Value := failure (workerKind error) error.message

def transportErrorOut (error : TransportError) : Value :=
  failure (transportKind error) error.message

def batchErrorOut (error : BatchError) : Value := failure (batchKind error) error.message

def taskFailureOut (error : TaskFailure) : Value := failure error.kind error.message

def programErrorOut (error : ProgramError) : Value :=
  record [("error", .text "Cli"), ("code", integer error.code), ("message", .text error.message)]

inductive AnyError where
  | io (error : Fault)
  | link (error : LinkError)
  | frame (error : FrameError)
  | call (error : CallError)
  | worker (error : WorkerError)
  | transport (error : TransportError)
  | batch (error : BatchError)
  | program (error : ProgramError)
  | json (error : JsonError)
  | plain (error : TaskFailure)

def durationOf (description : Value) : Duration :=
  ⟨natAt description "secs" * 1000000000 + natAt description "nanos"⟩

def linkErrorOf (description : Value) : LinkError :=
  match textAt description "variant" with
  | "Open" => .notOpened (textAt description "path") (faultAt description)
  | "Configure" => .notConfigured (textAt description "path") (faultAt description)
  | "UnsupportedBaudRate" => .unsupportedBaudRate (natAt description "baud")
  | "Busy" => .busy (textAt description "path")
  | "Bind" => .notBound (textAt description "path") (faultAt description)
  | "Accept" => .notAccepted (faultAt description)
  | "PathTooLong" =>
    .pathTooLong (textAt description "path") (natAt description "len") (natAt description "max")
  | "InvalidAddress" => .invalidAddress (textAt description "text")
  | "Unsupported" =>
    .unsupported (if textAt description "medium" = "serial" then .serial else .socket)
  | _ => .stream (faultAt description)

def frameErrorOf (description : Value) : FrameError :=
  match textAt description "variant" with
  | "PayloadTooLarge" => .payloadTooLarge (natAt description "size") (natAt description "max")
  | "ConnectionClosed" => .closed
  | _ => .stream (faultAt description)

def jsonErrorOf (text : String) : JsonError :=
  match parse text with
  | .error error => error
  | .ok _ => ⟨.endOfValue, none⟩

def callErrorOf (description : Value) : CallError :=
  match textAt description "variant" with
  | "Frame" => .frame (frameErrorOf (description.member "inner"))
  | "Link" => .link (linkErrorOf (description.member "inner"))
  | "Json" => .json (jsonErrorOf (textAt description "text"))
  | "InvalidArguments" => .invalidArguments (if flagAt description "array" then .list else .number)
  | "Timeout" =>
    .timedOut (textAt description "service") (textAt description "method") (durationOf description)
  | _ => .disconnected

def workerErrorOf (description : Value) : WorkerError :=
  match textAt description "variant" with
  | "Spawn" => .notSpawned (faultAt description)
  | "JoinTimeout" => .joinTimedOut (durationOf description)
  | _ => .panicked

def transportErrorOf (description : Value) : TransportError :=
  let inner := description.member "inner"
  match textAt description "variant" with
  | "LinkUnavailable" => .linkUnavailable (linkErrorOf inner)
  | "Link" => .link (linkErrorOf inner)
  | "Worker" => .worker (workerErrorOf inner)
  | "Rpc" => .call (callErrorOf inner)
  | "AlreadyOpen" => .alreadyOpen
  | "NotOpen" => .notOpen
  | _ =>
    let given {α : Type} (name : String) (read : Value → α) : Option α :=
      if isNull (description.member name) then none else some (read (description.member name))
    .notClosed (given "worker" workerErrorOf) (given "link" linkErrorOf)

def failureOf (description : Value) : Nat × TaskFailure :=
  match itemsOf description with
  | [index, .text kind, .text message] => ((integerOf index).toNat, ⟨kind, message⟩)
  | _ => (0, default)

def batchErrorOf (description : Value) : BatchError :=
  match textAt description "variant" with
  | "Spawn" => .notSpawned (natAt description "index") (faultAt description)
  | "WorkerEnv" => .badEnvironment (textAt description "text")
  | "TaskFailures" => .tasksFailed ((listAt description "failures").map failureOf)
  | "Json" => .json (jsonErrorOf (textAt description "text"))
  | _ => .stream (faultAt description)

def anyErrorOf (description : Value) : AnyError :=
  match textAt description "type" with
  | "io" => .io (faultAt description)
  | "link" => .link (linkErrorOf description)
  | "frame" => .frame (frameErrorOf description)
  | "rpc" => .call (callErrorOf description)
  | "worker" => .worker (workerErrorOf description)
  | "transport" => .transport (transportErrorOf description)
  | "exec" => .batch (batchErrorOf description)
  | "cli" => .program ⟨natAt description "code", textAt description "text"⟩
  | "json" => .json (jsonErrorOf (textAt description "text"))
  | "no_result" => .plain .noResult
  | _ => .plain ⟨textAt description "kind", textAt description "message"⟩

end DeviceRig.Exchange
