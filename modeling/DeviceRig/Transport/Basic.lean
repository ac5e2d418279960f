import DeviceRig.Call.Channel
import DeviceRig.Frame.Writer
import DeviceRig.Link.Media
import DeviceRig.Log.Sink
import DeviceRig.Transport.Dispatch
import DeviceRig.Transport.Settings
import DeviceRig.Transport.Worker

/-!
A transport: one device connection that can be opened and closed. While it is open it holds a link
and a channel for calls, and a worker hands responses to the channel and log text to the sink. A
worker that outlives a closing goes on with the closed channel and the same sink until it ends. The
operations on the link below it are given by what they meet, and those that were undertaken are
told.
-/
namespace DeviceRig

inductive TransportHandler where
  | calls (channel : CallChannel)
  | log (sink : LogSink)
deriving DecidableEq, Repr, Inhabited

def TransportHandler.behaviour : HandlerBehaviour TransportHandler where
  handle frame
    | .calls channel => (.done, .calls (channel.handle frame))
    | .log sink => (.done, .log (sink.handle frame))
  close
    | .calls channel => (.done, .calls channel.close)
    | .log sink => (.done, .log sink)

structure Transport where
  address : LinkAddress
  settings : TransportSettings
  media : Media
  holdsLink : Bool
  calls : Option CallChannel
  /-- The channel of the last closing, which its worker has if that is still there. -/
  retired : Option CallChannel
  logs : LogSink
  worker : LinkWorker
  decoder : Frame.Decoder
deriving Inhabited

/-- What the operations below an opening meet, in their order. -/
structure OpenConditions where
  link : Except LinkError Unit
  closeOnExec : Except LinkError Unit
  lock : Except LinkError Unit
  stop : LinkWorker.StopWait
  callLink : Except LinkError Unit
  workerLink : Except LinkError Unit
  spawned : Except Fault Unit

structure CloseConditions where
  stop : LinkWorker.StopWait
  unlock : Except LinkError Unit

structure SendConditions where
  writes : List Frame.WriteEvent
  flushes : List Frame.FlushEvent

/-- The operations on the link that were undertaken. -/
inductive LinkAction where
  | acquire
  | lock
  | unlock
  | shutDown
  | release
deriving DecidableEq, Repr, Inhabited

namespace Transport

def new (address : LinkAddress) (settings : TransportSettings) (media : Media) : Transport where
  address
  settings
  media
  holdsLink := false
  calls := none
  retired := none
  logs := .new settings.logCapacity
  worker := .new settings.worker.joinTimeout
  decoder := .new settings.worker.maxPayload

def isOpen (transport : Transport) : Bool :=
  transport.holdsLink && transport.worker.isAlive

/-- Starts the worker on an acquired link. A worker left over from a failed closing must be gone
first. -/
def start (transport : Transport) (conditions : OpenConditions) :
    Except TransportError Unit × Transport :=
  match transport.worker.stop conditions.stop with
  | (.error error, worker) => (.error (.worker error), { transport with worker })
  | (.ok (), worker) =>
    let transport := { transport with worker }
    match conditions.callLink with
    | .error error => (.error (.link error), transport)
    | .ok () =>
      let transport :=
        { transport with logs := .new transport.settings.logCapacity, retired := none }
      match conditions.workerLink with
      | .error error => (.error (.link error), transport)
      | .ok () =>
        match transport.worker.start conditions.spawned with
        | (.error error, worker) => (.error (.worker error), { transport with worker })
        | (.ok _, worker) =>
          (.ok (), { transport with
            worker
            calls := some .new
            decoder := .new transport.settings.worker.maxPayload })

def lockError : LinkError → TransportError
  | .busy path => .linkUnavailable (.busy path)
  | other => .link other

def openLink (transport : Transport) (conditions : OpenConditions) :
    Except TransportError Unit × Transport × List LinkAction :=
  if transport.holdsLink then (.error .alreadyOpen, transport, [])
  else
    match transport.media.check transport.address with
    | .error error => (.error (.linkUnavailable error), transport, [])
    | .ok () =>
      match conditions.link with
      | .error error => (.error (.linkUnavailable error), transport, [])
      | .ok () =>
        match conditions.closeOnExec with
        | .error error => (.error (.link error), transport, [.acquire, .release])
        | .ok () =>
          match conditions.lock with
          | .error error => (.error (lockError error), transport, [.acquire, .release])
          | .ok () =>
            match transport.start conditions with
            | (.error error, transport) =>
              (.error error, transport, [.acquire, .lock, .unlock, .release])
            | (.ok (), transport) =>
              (.ok (), { transport with holdsLink := true }, [.acquire, .lock])

/-- Stops the worker and releases the link; both are tried even if one fails. The calls in flight
are failed first, and a worker that outlives the stop is woken by shutting the link down. -/
def closeLink (transport : Transport) (conditions : CloseConditions) :
    Except TransportError Unit × Transport × List LinkAction :=
  if transport.holdsLink then
    let (stopped, worker) := transport.worker.stop conditions.stop
    let retired := transport.calls.map CallChannel.close
    let closed := { transport with holdsLink := false, calls := none, retired, worker }
    match stopped, conditions.unlock with
    | .ok (), .ok () => (.ok (), closed, [.unlock, .release])
    | .ok (), .error error => (.error (.notClosed none (some error)), closed, [.unlock, .release])
    | .error error, .ok () =>
      (.error (.notClosed (some error) none), closed, [.shutDown, .unlock, .release])
    | .error error, .error unlock =>
      (.error (.notClosed (some error) (some unlock)), closed, [.shutDown, .unlock, .release])
  else (.ok (), transport, [])

def workerChannel (transport : Transport) : Option CallChannel :=
  transport.calls.or transport.retired

def handlers (transport : Transport) : Handlers TransportHandler :=
  match transport.workerChannel with
  | some channel => [(Frame.callAddress, .calls channel), (Frame.logAddress, .log transport.logs)]
  | none => []

def withChannel (transport : Transport) (channel : CallChannel) : Transport :=
  if transport.calls.isSome then { transport with calls := some channel }
  else { transport with retired := some channel }

def withHandlers (transport : Transport) (handlers : Handlers TransportHandler) : Transport :=
  handlers.foldl (fun transport entry =>
    match entry.2 with
    | .calls channel => transport.withChannel channel
    | .log sink => { transport with logs := sink }) transport

def receive (transport : Transport) (bytes : List UInt8) : Transport :=
  if transport.worker.isAlive then
    let (decoder, frames) := transport.decoder.feed bytes
    let handlers := transport.handlers.dispatchAll TransportHandler.behaviour frames
    ({ transport with decoder }).withHandlers handlers
  else transport

/-- The worker leaves its loop, at the end of the link or at a stop request. -/
def hangUp (transport : Transport) : Transport :=
  let closed := if transport.worker.isAlive then
      transport.withHandlers (transport.handlers.close TransportHandler.behaviour)
    else transport
  { closed with worker := closed.worker.threadEnds false }

def crash (transport : Transport) : Transport :=
  { transport with worker := transport.worker.threadEnds true }

/-- Enters a call and sends its request: the number of the call and the bytes that reached the
link. A call whose request is not out leaves the table again. -/
def beginCall (transport : Transport) (service method : String) (kwargs : Json.Value)
    (conditions : SendConditions) : Except TransportError UInt32 × List UInt8 × Transport :=
  match transport.calls with
  | none => (.error .notOpen, [], transport)
  | some channel =>
    match channel.begin service method kwargs with
    | .error error => (.error (.call error), [], transport)
    | .ok (id, request, begun) =>
      let writer := Frame.Writer.new Frame.defaultMaxPayload conditions.writes conditions.flushes
      match writer.send Frame.callAddress request with
      | (.error error, wire, _) =>
        (.error (.call (.frame error)), wire, { transport with calls := some (begun.forget id) })
      | (.ok (), wire, _) => (.ok id, wire, { transport with calls := some begun })

def finishCall (transport : Transport) (id : UInt32) (service method : String) :
    Except TransportError Reply × Transport :=
  match transport.calls with
  | none => (.error .notOpen, transport)
  | some channel =>
    let (answer, calls) := channel.finish transport.settings.call id service method
    (answer.mapError .call, { transport with calls := some calls })

/-- The next chunk of log text; none while the transport is closed. -/
def readLog (transport : Transport) : List UInt8 × Transport :=
  if transport.holdsLink then
    let (chunk, logs) := transport.logs.read
    (chunk, { transport with logs })
  else ([], transport)

end Transport

end DeviceRig
