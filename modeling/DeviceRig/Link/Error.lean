import DeviceRig.System.Fault
import DeviceRig.Text.Quoted

/-!
What can go wrong while a link is acquired or used.
-/
namespace DeviceRig

inductive Medium where
  | serial
  | socket
deriving DecidableEq, Repr, Inhabited

def Medium.name : Medium → String
  | .serial => "serial"
  | .socket => "socket"

inductive LinkError where
  | notOpened (path : String) (fault : Fault)
  | notConfigured (path : String) (fault : Fault)
  | unsupportedBaudRate (rate : Nat)
  | busy (path : String)
  | notBound (path : String) (fault : Fault)
  | notAccepted (fault : Fault)
  | pathTooLong (path : String) (length limit : Nat)
  | invalidAddress (text : String)
  | unsupported (medium : Medium)
  | stream (fault : Fault)
deriving DecidableEq, Repr, Inhabited

def LinkError.message : LinkError → String
  | .notOpened path fault => s!"failed to open link {path}: {fault.message}"
  | .notConfigured path fault => s!"failed to configure serial line {path}: {fault.message}"
  | .unsupportedBaudRate rate => s!"unsupported baud rate {rate}"
  | .busy path => s!"link {path} is in use by another process"
  | .notBound path fault => s!"failed to bind to {path}: {fault.message}"
  | .notAccepted fault => s!"failed to accept connection: {fault.message}"
  | .pathTooLong path length limit =>
    s!"socket path too long ({length} bytes, max {limit}): {path}"
  | .invalidAddress text =>
    s!"invalid link address {Text.quoted text}; expected unix:<path>, <path>@<baud> or <path>"
  | .unsupported medium => s!"{medium.name} links are not supported on this platform"
  | .stream fault => s!"link I/O error: {fault.message}"

end DeviceRig
