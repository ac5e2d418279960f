import DeviceRig.Device.Script

/-!
A device that serves connections. A simulated device serves its connections side by side, all on one
state; a scripted device serves one after the other. Only so many connections are accepted, in the
order in which they came, and what arrives on the others waits.
-/
namespace DeviceRig

open Json

inductive ServedDevice where
  | simulated (simulator : Simulator Members) (state : Members)
  | scripted (script : DeviceScript)

namespace ServedDevice

def isSequential : ServedDevice → Bool
  | .simulated .. => false
  | .scripted _ => true

def ofServed (simulator : Simulator Members) (served : Simulator.Served Members) :
    DeviceOutput × ServedDevice :=
  (⟨served.sent, served.failure.isSome⟩, .simulated simulator served.state)

def greet : ServedDevice → DeviceOutput × ServedDevice
  | .simulated simulator state =>
    ofServed simulator (Simulator.boot ⟨0, 0⟩ state simulator.bootLog)
  | .scripted script => (ScriptAction.performAll 0 script.greeting, .scripted script)

def answer (device : ServedDevice) (frames : List Frame) : DeviceOutput × ServedDevice :=
  match device with
  | .simulated simulator state => ofServed simulator (simulator.answer ⟨0, 0⟩ state frames)
  | .scripted script =>
    let (output, script) := script.answer frames
    (output, .scripted script)

def seen? : ServedDevice → Option (List String)
  | .simulated .. => none
  | .scripted script => some script.seen

end ServedDevice

inductive ConnectionPhase where
  | waiting
  | served
  | ended
deriving DecidableEq, Repr, Inhabited

structure DeviceConnection where
  number : Nat
  phase : ConnectionPhase
  decoder : Frame.Decoder
  inbox : List UInt8
  outbox : List UInt8
  hostGone : Bool
deriving Inhabited

structure DeviceServer where
  device : ServedDevice
  limit : Nat
  connections : List DeviceConnection

namespace DeviceServer

def new (device : ServedDevice) (limit : Nat) : DeviceServer := ⟨device, limit, []⟩

def find? (server : DeviceServer) (number : Nat) : Option DeviceConnection :=
  server.connections.find? fun connection => connection.number = number

def update (server : DeviceServer) (connection : DeviceConnection) : DeviceServer :=
  { server with
    connections := server.connections.map fun other =>
      if other.number = connection.number then connection else other }

def accepted (server : DeviceServer) : Nat :=
  (server.connections.filter fun connection => connection.phase ≠ .waiting).length

def isServing (server : DeviceServer) : Bool :=
  server.connections.any fun connection => connection.phase = .served

def isFinished (server : DeviceServer) : Bool :=
  server.limit ≤ server.accepted && !server.isServing

def deliver (server : DeviceServer) (connection : DeviceConnection)
    (result : DeviceOutput × ServedDevice) : DeviceServer :=
  let (output, device) := result
  let phase := if output.hungUp then .ended else connection.phase
  { server with device }.update
    { connection with phase, outbox := connection.outbox ++ output.sent }

/-- The device reads what has arrived on a connection that it serves. -/
def process (server : DeviceServer) (number : Nat) : DeviceServer :=
  match server.find? number with
  | some connection =>
    if connection.phase = .served then
      let (decoder, frames) := connection.decoder.feed connection.inbox
      let connection := { connection with decoder, inbox := [] }
      let server := server.deliver connection (server.device.answer frames)
      match server.find? number with
      | some connection =>
        if connection.hostGone then server.update { connection with phase := .ended } else server
      | none => server
    else server
  | none => server

def acceptOne (server : DeviceServer) (connection : DeviceConnection) : DeviceServer :=
  (server.deliver { connection with phase := .served } server.device.greet).process
    connection.number

/-- Accepts waiting connections as long as the device does, at most so many. -/
def acceptUpTo (server : DeviceServer) : Nat → DeviceServer
  | 0 => server
  | count + 1 =>
    if server.limit ≤ server.accepted || (server.device.isSequential && server.isServing) then
      server
    else
      match server.connections.find? fun connection => connection.phase = .waiting with
      | none => server
      | some connection => (server.acceptOne connection).acceptUpTo count

def acceptAll (server : DeviceServer) : DeviceServer :=
  server.acceptUpTo server.connections.length

def connect (server : DeviceServer) (number : Nat) : DeviceServer :=
  let connection : DeviceConnection :=
    ⟨number, .waiting, .new Frame.defaultMaxPayload, [], [], false⟩
  { server with connections := server.connections ++ [connection] }.acceptAll

def receive (server : DeviceServer) (number : Nat) (bytes : List UInt8) : DeviceServer :=
  match server.find? number with
  | some connection =>
    let connection := { connection with inbox := connection.inbox ++ bytes }
    ((server.update connection).process number).acceptAll
  | none => server

def hostCloses (server : DeviceServer) (number : Nat) : DeviceServer :=
  match server.find? number with
  | some connection =>
    ((server.update { connection with hostGone := true }).process number).acceptAll
  | none => server

/-- The host reads: the bytes, and whether the device has hung up behind them. -/
def fetch (server : DeviceServer) (number : Nat) : (List UInt8 × Bool) × DeviceServer :=
  match server.find? number with
  | some connection =>
    ((connection.outbox, connection.phase = .ended),
      server.update { connection with outbox := [] })
  | none => (([], true), server)

/-- The device stops; connections that it has not accepted are reset. -/
def shutDown (server : DeviceServer) : DeviceServer :=
  { server with
    connections := server.connections.map fun connection =>
      { connection with phase := .ended } }

end DeviceServer

end DeviceRig
