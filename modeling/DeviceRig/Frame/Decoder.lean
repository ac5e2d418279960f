import DeviceRig.Frame.Basic

/-!
The streaming decoder. Bytes arrive in pieces of any size; an unfinished frame is kept between
pieces, so only the bytes matter and not where they were cut. Bytes before the first flag, bodies
too short to hold an address and a checksum, bodies above the limit and bodies that end in an
escape yield nothing.
-/
namespace DeviceRig.Frame

/-- Where the decoder stands in the wire. Only an unfinished body holds bytes. -/
inductive Phase where
  | hunting
  | collecting (held : Array UInt8)
  | escaped (held : Array UInt8)
  | overflowing
deriving DecidableEq, Repr, Inhabited

structure Decoder where
  maxBody : Nat
  phase : Phase
deriving Repr, Inhabited

namespace Decoder

def new (maxPayload : Nat) : Decoder :=
  ⟨maxPayload + overhead, .hunting⟩

def reset (decoder : Decoder) : Decoder :=
  { decoder with phase := .hunting }

/-- Appends a byte to the body unless the body is full. -/
def hold (maxBody : Nat) (held : Array UInt8) (byte : UInt8) : Phase :=
  if held.size < maxBody then .collecting (held.push byte) else .overflowing

/-- What one byte does: the next phase and the frame that it completes. -/
def step (maxBody : Nat) (phase : Phase) (byte : UInt8) : Phase × Option Frame :=
  match phase with
  | .hunting => if byte = flag then (.collecting #[], none) else (.hunting, none)
  | .collecting held =>
    if byte = flag then (.collecting #[], ofBody? held.toList)
    else if byte = escape then (.escaped held, none)
    else (hold maxBody held byte, none)
  | .escaped held =>
    if byte = flag then (.collecting #[], none)
    else (hold maxBody held (byte ^^^ escapeMask), none)
  | .overflowing => if byte = flag then (.collecting #[], none) else (.overflowing, none)

/-- The phase after a piece, and the frames found so far followed by those of the piece. -/
def run (maxBody : Nat) (phase : Phase) (found : Array Frame) (piece : List UInt8) :
    Phase × Array Frame :=
  match piece with
  | [] => (phase, found)
  | byte :: rest =>
    match step maxBody phase byte with
    | (next, none) => run maxBody next found rest
    | (next, some frame) => run maxBody next (found.push frame) rest

/-- Feeds a piece of the stream and gives every frame that it completes. -/
def feed (decoder : Decoder) (piece : List UInt8) : Decoder × List Frame :=
  let (phase, found) := run decoder.maxBody decoder.phase #[] piece
  ({ decoder with phase }, found.toList)

end Decoder

end DeviceRig.Frame
