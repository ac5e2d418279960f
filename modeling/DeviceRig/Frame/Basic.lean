import DeviceRig.Frame.Checksum

/-!
Frames on the wire. A frame carries an address, which selects a logical channel, and a payload.
Its body is the address, the payload and the checksum of both; on the wire the body stands between
two flag bytes, and a flag or escape byte inside it is written as the escape byte followed by the
byte with its sixth bit inverted.
-/
namespace DeviceRig

structure Frame where
  address : UInt8
  payload : List UInt8
  valid : Bool
deriving DecidableEq, Repr, Inhabited

namespace Frame

def flag : UInt8 := 0x7E

def escape : UInt8 := 0x7D

def escapeMask : UInt8 := 0x20

/-- The address and the checksum, which even an empty payload needs. -/
def overhead : Nat := 5

def defaultMaxPayload : Nat := 65536

def stuff (byte : UInt8) : List UInt8 :=
  if byte = flag ∨ byte = escape then [escape, byte ^^^ escapeMask] else [byte]

def body (address : UInt8) (payload : List UInt8) : List UInt8 :=
  address :: payload ++ wordBytes (checksum (address :: payload))

def encode (address : UInt8) (payload : List UInt8) : List UInt8 :=
  flag :: (body address payload).flatMap stuff ++ [flag]

/-- Reads a complete body. The last four bytes are the checksum of those before them. -/
def ofBody? (bytes : List UInt8) : Option Frame :=
  if bytes.length < overhead then none
  else
    let content := bytes.take (bytes.length - 4)
    match content with
    | [] => none
    | address :: payload =>
      some ⟨address, payload, bytes.drop (bytes.length - 4) = wordBytes (checksum content)⟩

def logAddress : UInt8 := 1

def callAddress : UInt8 := 82

def channelName (address : UInt8) : String :=
  if address = logAddress then "LOG" else if address = callAddress then "RPC" else "UNKNOWN"

def isReserved (address : UInt8) : Bool :=
  address = logAddress || address = callAddress

end Frame

end DeviceRig
