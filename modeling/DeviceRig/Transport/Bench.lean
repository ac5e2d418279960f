import DeviceRig.Transport.Dispatch
import DeviceRig.Transport.Settings
import DeviceRig.Transport.Worker

/-!
A worker on a bench: its handlers take notes, a peer writes to its link, and time passes only where
it is said. The worker reads at once what arrives while it waits, hands out the frames of one read
before it looks at its stop flag again, and notices a stop request at the end of a poll interval.
-/
namespace DeviceRig

inductive Note where
  | frame (frame : Frame)
  | closed
deriving DecidableEq, Repr, Inhabited

/-- What a handler does with the frames that trigger it; it notes all others. -/
inductive NoteReaction where
  | collect
  | fail
  | panic
  | block
deriving DecidableEq, Repr, Inhabited

structure NotingHandler where
  name : String
  reaction : NoteReaction
  /-- The payload that triggers the reaction; without one every frame does. -/
  trigger : List UInt8
  notes : List Note
deriving DecidableEq, Repr, Inhabited

namespace NotingHandler

def isTriggered (handler : NotingHandler) (frame : Frame) : Bool :=
  handler.trigger.isEmpty || handler.trigger = frame.payload

def note (handler : NotingHandler) (note : Note) : NotingHandler :=
  { handler with notes := handler.notes ++ [note] }

def blockTime : Duration := .ofMilliseconds 400

def timeFor (handler : NotingHandler) (frame : Frame) : Nat :=
  if handler.reaction = .block && handler.isTriggered frame then blockTime.nanoseconds else 0

def behaviour : HandlerBehaviour NotingHandler where
  handle frame handler :=
    if handler.isTriggered frame && handler.reaction = .fail then (.failed, handler)
    else if handler.isTriggered frame && handler.reaction = .panic then (.panicked, handler)
    else (.done, handler.note (.frame frame))
  close handler :=
    (if handler.reaction = .panic then .panicked else .done, handler.note .closed)

end NotingHandler

inductive BenchPeer where
  | missing
  | connected
  | gone
deriving DecidableEq, Repr, Inhabited

structure WorkerBench where
  settings : WorkerSettings
  worker : LinkWorker
  handlers : Handlers NotingHandler
  journal : List (String × List Note)
  decoder : Frame.Decoder
  inbox : List UInt8
  peer : BenchPeer
  now : Nat
  /-- When the worker was or will be at the start of a turn of its loop. -/
  turnAt : Nat
deriving Inhabited

namespace WorkerBench

def new (settings : WorkerSettings) : WorkerBench where
  settings
  worker := .new settings.joinTimeout
  handlers := []
  journal := []
  decoder := .new settings.maxPayload
  inbox := []
  peer := .missing
  now := 0
  turnAt := 0

def enter (journal : List (String × List Note)) (name : String) (notes : List Note) :
    List (String × List Note) :=
  journal.map fun entry => if entry.1 = name then (name, entry.2 ++ notes) else entry

def collect (bench : WorkerBench) : WorkerBench :=
  { bench with
    journal := bench.handlers.foldl
      (fun journal entry => enter journal entry.2.name entry.2.notes) bench.journal
    handlers := bench.handlers.map fun entry => (entry.1, { entry.2 with notes := [] }) }

def register (bench : WorkerBench) (address : UInt8) (handler : NotingHandler) : WorkerBench :=
  { bench with
    handlers := bench.handlers.register address handler
    journal :=
      if bench.journal.any fun entry => entry.1 = handler.name then bench.journal
      else bench.journal ++ [(handler.name, [])] }

def clearHandlers (bench : WorkerBench) : WorkerBench :=
  { bench with handlers := [] }

def dispatch (bench : WorkerBench) (frame : Frame) : WorkerBench :=
  let time := match bench.handlers.find? frame.address with
    | some handler => if frame.valid then handler.timeFor frame else 0
    | none => 0
  { bench with
    handlers := bench.handlers.dispatch NotingHandler.behaviour frame
    turnAt := bench.turnAt + time }.collect

def leave (bench : WorkerBench) : WorkerBench :=
  { bench with
    handlers := bench.handlers.close NotingHandler.behaviour
    worker := bench.worker.threadEnds false
    inbox := [] }.collect

def stopRequested (bench : WorkerBench) : Bool :=
  match bench.worker.thread with
  | some thread => thread.stopRequested
  | none => false

def readChunk (bench : WorkerBench) : WorkerBench :=
  let size := max bench.settings.chunkSize 1
  let (decoder, frames) := bench.decoder.feed (bench.inbox.take size)
  let read := { bench with decoder, inbox := bench.inbox.drop size }
  frames.foldl dispatch read

/-- Lets the worker take the turns that start by a time, at most so many. -/
def workUntil (bench : WorkerBench) (time : Nat) : Nat → WorkerBench
  | 0 => bench
  | turns + 1 =>
    if bench.worker.isAlive && bench.turnAt ≤ time then
      if bench.stopRequested then bench.leave
      else if !bench.inbox.isEmpty then bench.readChunk.workUntil time turns
      else if bench.peer = .gone then bench.leave
      else bench
    else bench

/-- Lets time pass. A turn reads at least one byte or is the last one. -/
def passUntil (bench : WorkerBench) (time : Nat) : WorkerBench :=
  { bench.workUntil time (bench.inbox.length + 1) with now := max bench.now time }

def pause (bench : WorkerBench) (time : Duration) : WorkerBench :=
  bench.passUntil (bench.now + time.nanoseconds)

def passUntilIdle (bench : WorkerBench) : WorkerBench :=
  let busy := bench.inbox.length * NotingHandler.blockTime.nanoseconds
  let after := bench.workUntil (bench.now + bench.turnAt + busy) (bench.inbox.length + 1)
  { after with now := max bench.now after.turnAt }

def start (bench : WorkerBench) : Bool × WorkerBench :=
  match bench.worker.start (.ok ()) with
  | (.ok true, worker) =>
    (true, { bench with
      worker
      decoder := .new bench.settings.maxPayload
      inbox := []
      peer := .connected
      turnAt := bench.now })
  | (_, worker) => (false, { bench with worker })

/-- The peer writes; it cannot if it is gone or nobody holds the link. -/
def write (bench : WorkerBench) (bytes : List UInt8) : Option WorkerBench :=
  if bench.peer = .connected && bench.worker.isAlive then
    let turnAt := if bench.inbox.isEmpty then max bench.turnAt bench.now else bench.turnAt
    some ({ bench with inbox := bench.inbox ++ bytes, turnAt }.passUntil bench.now)
  else none

def hangUp (bench : WorkerBench) : WorkerBench :=
  let peer := if bench.peer = .connected then .gone else bench.peer
  { bench with peer, turnAt := max bench.turnAt bench.now }.passUntilIdle

/-- When a worker that waits for bytes looks at its stop flag next. -/
def nextLook (bench : WorkerBench) : Nat :=
  let interval := bench.settings.pollInterval.nanoseconds
  if interval = 0 then bench.now
  else bench.turnAt + ((bench.now - bench.turnAt) / interval + 1) * interval

def stop (bench : WorkerBench) : Except WorkerError Unit × WorkerBench :=
  let turnAt := if bench.turnAt ≤ bench.now then bench.nextLook else bench.turnAt
  let deadline := bench.now + bench.settings.joinTimeout.nanoseconds
  let wait := if turnAt ≤ deadline then LinkWorker.StopWait.finishes else .outlives
  match bench.worker.stop wait with
  | (.ok (), worker) =>
    if bench.worker.isAlive then
      let left := bench.leave
      (.ok (), { left with worker, now := turnAt })
    else (.ok (), { bench with worker })
  | (.error error, worker) => (.error error, { bench with worker, turnAt, now := deadline })

end WorkerBench

end DeviceRig
