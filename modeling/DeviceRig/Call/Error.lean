import DeviceRig.Frame.Error
import DeviceRig.Json.Error
import DeviceRig.Link.Error
import DeviceRig.System.Duration

/-!
What can go wrong with a call.
-/
namespace DeviceRig

inductive ArgumentsKind where
  | boolean
  | number
  | text
  | list
deriving DecidableEq, Repr, Inhabited

def ArgumentsKind.describe : ArgumentsKind → String
  | .boolean => "a boolean"
  | .number => "a number"
  | .text => "a string"
  | .list => "an array"

inductive CallError where
  | frame (error : FrameError)
  | link (error : LinkError)
  | json (error : JsonError)
  | invalidArguments (kind : ArgumentsKind)
  | timedOut (service method : String) (timeout : Duration)
  | disconnected
deriving Repr, Inhabited

def CallError.message : CallError → String
  | .frame error => s!"frame error: {error.message}"
  | .link error => s!"link error: {error.message}"
  | .json error => s!"json error: {error.message}"
  | .invalidArguments kind => s!"rpc arguments must be a keyword map, got {kind.describe}"
  | .timedOut service method timeout =>
    s!"rpc {service}.{method} timed out after {timeout.describe}"
  | .disconnected => "link closed while call was pending"

end DeviceRig
