import DeviceRig.Frame.Basic

/-!
The log sink: a bounded queue of chunks of device log text. A full sink makes room for a new chunk
by discarding its oldest one and counts what it discards.
-/
namespace DeviceRig

structure LogSink where
  capacity : Nat
  chunks : List (List UInt8)
  dropped : Nat
deriving DecidableEq, Repr, Inhabited

namespace LogSink

def new (capacity : Nat) : LogSink :=
  ⟨max capacity 1, [], 0⟩

def size (sink : LogSink) : Nat :=
  sink.chunks.length

/-- What is told of the discarded chunks: a count of 64 bits, which starts anew. -/
def counter (sink : LogSink) : UInt64 :=
  .ofNat sink.dropped

def isFull (sink : LogSink) : Bool :=
  sink.capacity ≤ sink.size

def append (sink : LogSink) (chunk : List UInt8) : LogSink :=
  { sink with chunks := sink.chunks ++ [chunk] }

def trySend (sink : LogSink) (chunk : List UInt8) : Option LogSink :=
  if sink.isFull then none else some (sink.append chunk)

def tryTake (sink : LogSink) : Option (List UInt8 × LogSink) :=
  match sink.chunks with
  | [] => none
  | chunk :: rest => some (chunk, { sink with chunks := rest })

def discard (sink : LogSink) : LogSink :=
  match sink.tryTake with
  | none => sink
  | some (_, rest) => { rest with dropped := sink.dropped + 1 }

def push (sink : LogSink) (chunk : List UInt8) : LogSink :=
  match sink.trySend chunk with
  | some after => after
  | none => sink.discard.append chunk

def read (sink : LogSink) : List UInt8 × LogSink :=
  match sink.tryTake with
  | none => ([], sink)
  | some answer => answer

def clear (sink : LogSink) : LogSink :=
  { sink with chunks := [] }

def chunkOf (payload : List UInt8) : List UInt8 :=
  payload ++ [10]

def handle (sink : LogSink) (frame : Frame) : LogSink :=
  sink.push (chunkOf frame.payload)

end LogSink

end DeviceRig
