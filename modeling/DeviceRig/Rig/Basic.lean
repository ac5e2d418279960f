import DeviceRig.Device.Server
import DeviceRig.Link.Address
import DeviceRig.Link.Listener
import DeviceRig.Link.Serial
import DeviceRig.System.Duration

/-!
A rig: files, at most one device that serves a socket, and a serial line with nothing at its far
end. Time passes only where it is said. When the device has served its last connection, its socket
is gone.
-/
namespace DeviceRig

inductive RigLink where
  | socket (connection : Nat)
  | serial (opening : Nat)
deriving DecidableEq, Repr, Inhabited

structure Rig where
  files : FileTree
  listener : Option Listener
  server : Option DeviceServer
  /-- The opening that holds the lock of the serial line. -/
  lineLock : Option Nat
  nextNumber : Nat
  now : Nat

namespace Rig

def new (files : FileTree) : Rig := ⟨files, none, none, none, 0, 0⟩

/-- Takes the socket of a device away once it has served its last connection. -/
def settle (rig : Rig) : Rig :=
  match rig.listener, rig.server with
  | some listener, some server =>
    if server.isFinished then
      { rig with
        files := listener.drop rig.files
        listener := none
        server := some server.shutDown }
    else rig
  | _, _ => rig

/-- Puts a device on a socket path; nothing happens if the path cannot be bound. -/
def withDevice (rig : Rig) (path : String) (device : ServedDevice) (limit : Nat) : Rig :=
  match Listener.bind rig.files path with
  | .ok (listener, files) =>
    { rig with files, listener := some listener, server := some (.new device limit) }.settle
  | .error _ => rig

def updateServer (rig : Rig) (change : DeviceServer → DeviceServer) : Rig :=
  { rig with server := rig.server.map change }.settle

def pass (rig : Rig) (time : Duration) : Rig :=
  { rig with now := rig.now + time.nanoseconds }

def takeNumber (rig : Rig) : Nat × Rig :=
  (rig.nextNumber, { rig with nextNumber := rig.nextNumber + 1 })

def connectSocket (rig : Rig) (path : String) : Except LinkError (RigLink × Rig) :=
  match rig.files.socketAt path with
  | .error fault => .error (.notOpened path fault)
  | .ok inode =>
    match rig.listener with
    | none => .error (.notOpened path .connectionRefused)
    | some listener =>
      if listener.inode = inode then
        let (number, rig) := rig.takeNumber
        .ok (.socket number, rig.updateServer fun server => server.connect number)
      else .error (.notOpened path .connectionRefused)

def openLink (rig : Rig) : LinkAddress → Except LinkError (RigLink × Rig)
  | .socket path => rig.connectSocket path
  | .serial path rate =>
    match Serial.openLine rig.files path rate with
    | .error error => .error error
    | .ok _ =>
      let (number, rig) := rig.takeNumber
      .ok (.serial number, rig)

def lock (rig : Rig) (path : String) : RigLink → Except LinkError Rig
  | .socket _ => .ok rig
  | .serial opening =>
    match rig.lineLock with
    | some _ => .error (.busy path)
    | none => .ok { rig with lineLock := some opening }

def release (rig : Rig) : RigLink → Rig
  | .socket number => rig.updateServer fun server => server.hostCloses number
  | .serial opening =>
    if rig.lineLock = some opening then { rig with lineLock := none } else rig

def send (rig : Rig) (bytes : List UInt8) : RigLink → Rig
  | .socket number => rig.updateServer fun server => server.receive number bytes
  | .serial _ => rig

/-- Reads from a link: the bytes, and whether it has ended behind them. -/
def fetch (rig : Rig) : RigLink → (List UInt8 × Bool) × Rig
  | .socket number =>
    match rig.server with
    | some server =>
      let (answer, server) := server.fetch number
      (answer, { rig with server := some server })
    | none => (([], true), rig)
  | .serial _ => (([], false), rig)

end Rig

end DeviceRig
