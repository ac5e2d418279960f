import DeviceRig.Link.Address

/-!
The media that links may use.
-/
namespace DeviceRig

structure Media where
  serial : Bool
  socket : Bool
deriving DecidableEq, Repr, Inhabited

namespace Media

def all : Media := ⟨true, true⟩

def supports (media : Media) : Medium → Bool
  | .serial => media.serial
  | .socket => media.socket

def check (media : Media) (address : LinkAddress) : Except LinkError Unit :=
  if media.supports address.medium then .ok () else .error (.unsupported address.medium)

end Media

end DeviceRig
