import DeviceRig.Frame.Basic
import DeviceRig.Frame.Error

/-!
The writer. It puts whole frames on a stream whose writes and flushes are given by scripts. A write
may accept only part of its bytes; an interrupted or blocked write or flush is tried again; a write
that accepts nothing means that the link is closed. After the script every write accepts all. What a
call has to put on the stream goes through a buffer, which keeps it until the next call.
-/
namespace DeviceRig.Frame

/-- What a write meets: it takes at most so many bytes, or fails. -/
inductive WriteEvent where
  | accept (most : Nat)
  | fault (fault : Fault)
deriving DecidableEq, Repr, Inhabited

inductive FlushEvent where
  | done
  | fault (fault : Fault)
deriving DecidableEq, Repr, Inhabited

structure Writer where
  maxPayload : Nat
  buffer : List UInt8
  writes : List WriteEvent
  flushes : List FlushEvent
deriving Inhabited

namespace Writer

def new (maxPayload : Nat) (writes : List WriteEvent) (flushes : List FlushEvent) : Writer :=
  ⟨maxPayload, [], writes, flushes⟩

/-- The outcome of putting bytes on the stream, the bytes that got there, and the script left. -/
def put (bytes : List UInt8) (sent : List UInt8) :
    List WriteEvent → Except FrameError Unit × List UInt8 × List WriteEvent
  | [] => (.ok (), sent ++ bytes, [])
  | event :: rest =>
    if bytes.isEmpty then (.ok (), sent, event :: rest)
    else
      match event with
      | .accept 0 => (.error .closed, sent, rest)
      | .accept (most + 1) =>
        put (bytes.drop (most + 1)) (sent ++ bytes.take (most + 1)) rest
      | .fault fault =>
        if fault.isRetried then put bytes sent rest else (.error (.stream fault), sent, rest)

def settle : List FlushEvent → Except FrameError Unit × List FlushEvent
  | [] => (.ok (), [])
  | .done :: rest => (.ok (), rest)
  | .fault fault :: rest =>
    if fault.isRetried then settle rest else (.error (.stream fault), rest)

/-- The outcome of a call, the bytes that reached the stream in it, and the writer after it. -/
abbrev Answer := Except FrameError Unit × List UInt8 × Writer

def flush (writer : Writer) : Answer :=
  let (outcome, flushes) := settle writer.flushes
  (outcome, [], { writer with flushes })

def clear (writer : Writer) : Writer :=
  { writer with buffer := [] }

def append (writer : Writer) (bytes : List UInt8) : Writer :=
  { writer with buffer := writer.buffer ++ bytes }

def writeBuffer (writer : Writer) : Answer :=
  match put writer.buffer [] writer.writes with
  | (.error error, sent, writes) => (.error error, sent, { writer with writes })
  | (.ok (), sent, writes) =>
    let (outcome, _, writer) := flush { writer with writes }
    (outcome, sent, writer)

def sendRaw (writer : Writer) (bytes : List UInt8) : Answer :=
  (writer.clear.append bytes).writeBuffer

def send (writer : Writer) (address : UInt8) (payload : List UInt8) : Answer :=
  if writer.maxPayload < payload.length then
    (.error (.payloadTooLarge payload.length writer.maxPayload), [], writer)
  else (writer.clear.append (encode address payload)).writeBuffer

def writeFrame (writer : Writer) (frame : Frame) : Answer :=
  writer.send frame.address frame.payload

end Writer

end DeviceRig.Frame
