import DeviceRig.Rig.Basic
import DeviceRig.Transport.Basic

/-!
A transport at a rig. The rig decides what the operations below the transport meet; what the device
sends reaches the transport when the two are brought together.
-/
namespace DeviceRig

open Json

structure Station where
  transport : Transport
  link : Option RigLink
  leftoverUntil : Nat
deriving Inhabited

namespace Station

abbrev Step (α : Type) := Station → Rig → α × Station × Rig

def new (address : LinkAddress) (settings : TransportSettings) (media : Media) : Station :=
  ⟨.new address settings media, none, 0⟩

def address (station : Station) : LinkAddress := station.transport.address

def isOpen (station : Station) : Bool := station.transport.isOpen

/-- Hands what arrived on a link to the transport that holds it, and ends a leftover worker whose
time has come. -/
def meet (station : Station) (rig : Rig) : Station × Rig :=
  match station.link with
  | some link =>
    let ((bytes, ended), rig) := rig.fetch link
    let transport := station.transport.receive bytes
    ({ station with transport := if ended then transport.hangUp else transport }, rig)
  | none =>
    if station.leftoverUntil ≤ rig.now then
      ({ station with transport := station.transport.hangUp }, rig)
    else (station, rig)

/-- Whether a worker that waits for bytes ends within the time that stopping allows. -/
def stopWait (station : Station) (remaining : Nat) : LinkWorker.StopWait :=
  let allowed := station.transport.settings.worker.joinTimeout.nanoseconds
  if allowed = 0 || allowed < remaining then .outlives else .finishes

def pollTime (station : Station) : Nat :=
  station.transport.settings.worker.pollInterval.nanoseconds

def openConditions (station : Station) (rig : Rig) (link lock : Except LinkError Unit) :
    OpenConditions where
  link
  closeOnExec := .ok ()
  lock
  stop := station.stopWait (station.leftoverUntil - rig.now)
  callLink := .ok ()
  workerLink := .ok ()
  spawned := .ok ()

/-- Opens the transport. A link that it did not keep is let go. -/
def openLink : Step (Except TransportError Unit) := fun station rig =>
  match rig.openLink station.address with
  | .error error =>
    let conditions := station.openConditions rig (.error error) (.ok ())
    let (answer, transport, _) := station.transport.openLink conditions
    (answer, { station with transport }, rig)
  | .ok (link, reached) =>
    let locked := reached.lock station.address.path link
    let conditions := station.openConditions rig (.ok ()) (locked.map fun _ => ())
    let (answer, transport, actions) := station.transport.openLink conditions
    match answer, locked with
    | .ok (), .ok locked => (answer, { station with transport, link := some link }, locked)
    | _, _ =>
      if actions.contains .acquire then (answer, { station with transport }, reached.release link)
      else (answer, { station with transport }, rig)

/-- Closes the transport. A worker of a socket that outlives this is woken at once; one of a serial
line ends with its poll interval. -/
def close : Step (Except TransportError Unit) := fun station rig =>
  match station.link with
  | none => (.ok (), station, rig)
  | some link =>
    let conditions : CloseConditions := ⟨station.stopWait station.pollTime, .ok ()⟩
    let (answer, transport, _) := station.transport.closeLink conditions
    let leftoverUntil := match link with
      | .socket _ => rig.now
      | .serial _ => rig.now + station.pollTime
    (answer, ⟨transport, none, leftoverUntil⟩, rig.release link)

/-- Sends the request of a call, lets the device answer, and waits for the reply. -/
def callQualified (service method : String) (kwargs : Value) :
    Step (Except TransportError Reply) := fun station rig =>
  match station.transport.beginCall service method kwargs ⟨[], []⟩ with
  | (.error error, _, transport) => (.error error, { station with transport }, rig)
  | (.ok id, wire, transport) =>
    let rig := match station.link with
      | some link => rig.send wire link
      | none => rig
    let (station, rig) := { station with transport }.meet rig
    let (answer, transport) := station.transport.finishCall id service method
    let rig := match answer with
      | .error (.call (.timedOut ..)) => rig.pass station.transport.settings.call.timeout
      | _ => rig
    (answer, { station with transport }, rig)

def call (service method : String) (kwargs : Value) : Step (Except TransportError Reply) :=
  fun station rig =>
    let space := station.transport.settings.call.space
    callQualified (Packet.qualifiedService space service) method kwargs station rig

def echo (text : String) : Step (Except TransportError (Bool × String)) := fun station rig =>
  let service := Packet.qualifiedService Packet.diagnosticNamespace Packet.echoService
  let (answer, station, rig) :=
    callQualified service Packet.echoMethod (.object [("msg", .text text)]) station rig
  (answer.bind fun reply => reply.echoed.mapError .call, station, rig)

def readLog : Step (List UInt8) := fun station rig =>
  let (chunk, transport) := station.transport.readLog
  (chunk, { station with transport }, rig)

/-- The settings of calls, the number of calls in flight, or whatever else an open transport has. -/
def withCalls {α : Type} (use : CallChannel → α × CallChannel) : Step (Except TransportError α) :=
  fun station rig =>
    match station.transport.calls with
    | none => (.error .notOpen, station, rig)
    | some channel =>
      let (answer, calls) := use channel
      (.ok answer, { station with transport := { station.transport with calls } }, rig)

def pending : Step (Except TransportError Nat) :=
  withCalls fun channel => (channel.table.pending.length, channel)

def failPending : Step (Except TransportError Unit) :=
  withCalls fun channel => ((), channel.close)

def clearLogs (station : Station) : Station :=
  { station with
    transport := { station.transport with logs := station.transport.logs.clear } }

end Station

def Rig.meetAll (rig : Rig) : List Station → List Station × Rig
  | [] => ([], rig)
  | station :: rest =>
    let (station, rig) := station.meet rig
    let (rest, rig) := rig.meetAll rest
    (station :: rest, rig)

end DeviceRig
