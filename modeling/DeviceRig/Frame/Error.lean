import DeviceRig.System.Fault

/-!
What can go wrong with frames. A corrupt frame is no error: the decoder marks or drops it.
-/
namespace DeviceRig

inductive FrameError where
  | payloadTooLarge (size limit : Nat)
  | stream (fault : Fault)
  | closed
deriving DecidableEq, Repr, Inhabited

def FrameError.message : FrameError → String
  | .payloadTooLarge size limit => s!"payload too large ({size} bytes, max {limit})"
  | .stream fault => s!"frame I/O error: {fault.message}"
  | .closed => "link closed"

end DeviceRig
