import DeviceRig.Link.Address
import DeviceRig.Link.Listener
import DeviceRig.Link.Serial

/-!
The link streams of a process by name, and the listeners it has bound. A stream is one side of a
socket connection or a serial line. What one side of a connection writes waits until the other side
reads it; a side ends when its last stream is dropped or when it is shut down, and a side that ends
with bytes unread resets the other one. All streams of a serial line share its bytes, and at most
one of its openings holds its lock.
-/
namespace DeviceRig

structure SocketSide where
  inbox : List UInt8
  holders : Nat
  isShut : Bool
  /-- Whether the next read past the bytes that are left fails. -/
  isReset : Bool
deriving DecidableEq, Repr, Inhabited

namespace SocketSide

def fresh : SocketSide := ⟨[], 1, false, false⟩

def hasEnded (side : SocketSide) : Bool :=
  side.holders = 0 || side.isShut

end SocketSide

structure Connection where
  left : SocketSide
  right : SocketSide
deriving DecidableEq, Repr, Inhabited

namespace Connection

def side (connection : Connection) (isLeft : Bool) : SocketSide :=
  if isLeft then connection.left else connection.right

def setSide (connection : Connection) (isLeft : Bool) (side : SocketSide) : Connection :=
  if isLeft then { connection with left := side } else { connection with right := side }

def release (connection : Connection) (isLeft : Bool) : Connection :=
  let own := connection.side isLeft
  let own := { own with holders := own.holders - 1 }
  let other := connection.side (!isLeft)
  let resets := own.holders = 0 && !own.inbox.isEmpty
  (connection.setSide isLeft own).setSide (!isLeft)
    { other with isReset := other.isReset || resets }

end Connection

inductive StreamKind where
  | socket (connection : Nat) (isLeft : Bool)
  | serial (opening : Nat)
deriving DecidableEq, Repr, Inhabited

structure LinkStream where
  path : String
  kind : StreamKind
deriving DecidableEq, Repr, Inhabited

namespace LinkStream

def medium (stream : LinkStream) : Medium :=
  match stream.kind with
  | .socket .. => .socket
  | .serial _ => .serial

def describe (stream : LinkStream) : String :=
  "LinkStream \x7b medium: " ++ Text.quoted stream.medium.name ++ ", path: "
    ++ Text.quoted stream.path ++ " \x7d"

end LinkStream

/-- A bound listener and the connections that it has not accepted yet. -/
structure BoundListener where
  listener : Listener
  waiting : List Nat
deriving DecidableEq, Repr, Inhabited

/-- The bytes on their way on a serial line, the opening that holds its lock, and whether it was
ever opened. -/
structure SerialLine where
  toLine : List UInt8
  fromLine : List UInt8
  lockedBy : Option Nat
  wasOpened : Bool
deriving DecidableEq, Repr, Inhabited

structure LinkStreams where
  files : FileTree
  streams : List (String × LinkStream)
  listeners : List (String × BoundListener)
  connections : List (Nat × Connection)
  line : SerialLine
  nextNumber : Nat
deriving DecidableEq, Repr, Inhabited

inductive LinkAnswer where
  | done
  | noStream
  | bound (path : String)
  | data (bytes : List UInt8)
  | readable (value : Bool)
  | closeOnExec (value : Bool)
  | info (medium : Medium) (path description : String)
deriving DecidableEq, Repr, Inhabited

namespace LinkStreams

abbrev Step := LinkStreams → Except LinkError LinkAnswer × LinkStreams

def new (files : FileTree) : LinkStreams :=
  ⟨files, [], [], [], ⟨[], [], none, false⟩, 0⟩

def done (links : LinkStreams) : Except LinkError LinkAnswer × LinkStreams :=
  (.ok .done, links)

def failed (links : LinkStreams) (fault : Fault) : Except LinkError LinkAnswer × LinkStreams :=
  (.error (.stream fault), links)

def connection (links : LinkStreams) (number : Nat) : Connection :=
  (links.connections.lookup number).getD ⟨.fresh, .fresh⟩

def setConnection (links : LinkStreams) (number : Nat) (connection : Connection) : LinkStreams :=
  { links with
    connections := (number, connection) :: links.connections.filter fun entry => entry.1 ≠ number }

def letGo (links : LinkStreams) (stream : LinkStream) : LinkStreams :=
  match stream.kind with
  | .socket number isLeft =>
    links.setConnection number ((links.connection number).release isLeft)
  | .serial opening =>
    if links.streams.any fun entry => entry.2.kind = .serial opening then links
    else if links.line.lockedBy = some opening then
      { links with line := { links.line with lockedBy := none } }
    else links

def forgetName (links : LinkStreams) (name : String) : LinkStreams :=
  { links with streams := links.streams.filter fun entry => entry.1 ≠ name }

def drop (name : String) : Step := fun links =>
  match links.streams.lookup name with
  | none => links.done
  | some stream => ((links.forgetName name).letGo stream).done

def keep (links : LinkStreams) (name : String) (stream : LinkStream) : LinkStreams :=
  let old := links.streams.lookup name
  let forgotten := links.forgetName name
  let kept := { forgotten with streams := (name, stream) :: forgotten.streams }
  match old with
  | none => kept
  | some old => kept.letGo old

def newConnection (links : LinkStreams) : Nat × LinkStreams :=
  (links.nextNumber,
    { links.setConnection links.nextNumber ⟨.fresh, .fresh⟩ with
      nextNumber := links.nextNumber + 1 })

def pair (left right : String) : Step := fun links =>
  let (number, links) := links.newConnection
  let links := links.keep left ⟨"<pair:left>", .socket number true⟩
  (links.keep right ⟨"<pair:right>", .socket number false⟩).done

def connect (name path : String) : Step := fun links =>
  match links.files.socketAt path with
  | .error fault => (.error (.notOpened path fault), links)
  | .ok inode =>
    let reaches (entry : String × BoundListener) : Bool := entry.2.listener.inode = inode
    if links.listeners.any reaches then
      let (number, links) := links.newConnection
      let listeners := links.listeners.map fun entry =>
        if reaches entry then
          (entry.1, { entry.2 with waiting := entry.2.waiting ++ [number] })
        else entry
      (({ links with listeners }).keep name ⟨path, .socket number true⟩).done
    else (.error (.notOpened path .connectionRefused), links)

/-- Opens a serial line; bytes that are on their way are discarded. -/
def openSerial (name path : String) (rate : Nat) : Step := fun links =>
  match Serial.openLine links.files path rate with
  | .error error => (.error error, links)
  | .ok _ =>
    let links := { links with
      line := { links.line with toLine := [], fromLine := [], wasOpened := true }
      nextNumber := links.nextNumber + 1 }
    (links.keep name ⟨path, .serial (links.nextNumber - 1)⟩).done

def openAddress (name text : String) : Step := fun links =>
  match LinkAddress.parse text with
  | .error error => (.error error, links)
  | .ok (.socket path) => connect name path links
  | .ok (.serial path rate) => openSerial name path rate links

/-- Drops a listener; connections that it has not accepted are reset. -/
def dropListener (links : LinkStreams) (bound : BoundListener) : LinkStreams :=
  let links := { links with files := bound.listener.drop links.files }
  bound.waiting.foldl (fun links number =>
    let connection := links.connection number
    links.setConnection number
      ⟨{ connection.left with isReset := true }, { connection.right with holders := 0 }⟩) links

def forgetListener (links : LinkStreams) (name : String) : LinkStreams :=
  { links with listeners := links.listeners.filter fun entry => entry.1 ≠ name }

def bind (name path : String) : Step := fun links =>
  match Listener.bind links.files path with
  | .error error => (.error error, links)
  | .ok (listener, files) =>
    let old := links.listeners.lookup name
    let links := { links with files }.forgetListener name
    let links := { links with listeners := (name, ⟨listener, []⟩) :: links.listeners }
    let links := match old with
      | none => links
      | some old => links.dropListener old
    (.ok (.bound path), links)

def unbind (name : String) : Step := fun links =>
  match links.listeners.lookup name with
  | none => links.done
  | some bound => ((links.forgetListener name).dropListener bound).done

def accept (name as : String) : Step := fun links =>
  match links.listeners.lookup name with
  | none => (.ok .noStream, links)
  | some bound =>
    match bound.waiting with
    | [] => (.ok .noStream, links)
    | number :: waiting =>
      let listeners := links.listeners.map fun entry =>
        if entry.1 = name then (name, { bound with waiting }) else entry
      (({ links with listeners }).keep as ⟨bound.listener.path, .socket number false⟩).done

def write (stream : LinkStream) (bytes : List UInt8) : Step := fun links =>
  match stream.kind with
  | .serial _ =>
    { links with line := { links.line with fromLine := links.line.fromLine ++ bytes } }.done
  | .socket number isLeft =>
    let connection := links.connection number
    let other := connection.side (!isLeft)
    if bytes.isEmpty then links.done
    else if (connection.side isLeft).isShut || other.hasEnded then links.failed .brokenPipe
    else
      (links.setConnection number
        (connection.setSide (!isLeft) { other with inbox := other.inbox ++ bytes })).done

/-- Reads until there are so many bytes, the stream ends, or nothing comes. -/
def read (stream : LinkStream) (count : Nat) : Step := fun links =>
  match stream.kind with
  | .serial _ =>
    (.ok (.data (links.line.toLine.take count)),
      { links with line := { links.line with toLine := links.line.toLine.drop count } })
  | .socket number isLeft =>
    let connection := links.connection number
    let own := connection.side isLeft
    let rest := { own with inbox := own.inbox.drop count }
    if own.inbox.length < count && own.isReset then
      (links.setConnection number
        (connection.setSide isLeft { rest with isReset := false })).failed .connectionReset
    else
      (.ok (.data (own.inbox.take count)),
        links.setConnection number (connection.setSide isLeft rest))

/-- Whether a read would not have to wait. An end counts as readable. -/
def waitReadable (stream : LinkStream) : Step := fun links =>
  match stream.kind with
  | .serial _ => (.ok (.readable (!links.line.toLine.isEmpty)), links)
  | .socket number isLeft =>
    let connection := links.connection number
    let own := connection.side isLeft
    let other := connection.side (!isLeft)
    (.ok (.readable (!own.inbox.isEmpty || own.isShut || own.isReset || other.hasEnded)), links)

def lock (stream : LinkStream) : Step := fun links =>
  match stream.kind with
  | .socket .. => links.done
  | .serial opening =>
    match links.line.lockedBy with
    | some other =>
      if other = opening then links.done else (.error (.busy stream.path), links)
    | none => { links with line := { links.line with lockedBy := some opening } }.done

def unlock (stream : LinkStream) : Step := fun links =>
  match stream.kind with
  | .socket .. => links.done
  | .serial opening =>
    if links.line.lockedBy = some opening then
      { links with line := { links.line with lockedBy := none } }.done
    else links.done

/-- Shuts both directions of a socket; a serial line has no such thing. -/
def shutdown (stream : LinkStream) : Step := fun links =>
  match stream.kind with
  | .serial _ => links.done
  | .socket number isLeft =>
    let connection := links.connection number
    let own := { connection.side isLeft with isShut := true }
    (links.setConnection number (connection.setSide isLeft own)).done

def clone (stream : LinkStream) (as : String) : Step := fun links =>
  match stream.kind with
  | .serial _ => (links.keep as stream).done
  | .socket number isLeft =>
    let connection := links.connection number
    let own := connection.side isLeft
    let links := links.setConnection number
      (connection.setSide isLeft { own with holders := own.holders + 1 })
    (links.keep as stream).done

def closeOnExec : Step := fun links =>
  (.ok (.closeOnExec true), links)

def info (stream : LinkStream) : Step := fun links =>
  (.ok (.info stream.medium stream.path stream.describe), links)

def withStream (name : String) (step : LinkStream → Step) : Step := fun links =>
  match links.streams.lookup name with
  | none => (.ok .noStream, links)
  | some stream => step stream links

def changeFiles (change : FileTree → Except Fault FileTree) : Step := fun links =>
  match change links.files with
  | .ok files => { links with files }.done
  | .error fault => links.failed fault

def lineIsOpen (links : LinkStreams) : Bool :=
  links.streams.any fun entry => entry.2.medium = .serial

/-- The far end of the serial line sends bytes; nobody takes them while the line is closed. -/
def farWrite (bytes : List UInt8) : Step := fun links =>
  if bytes.isEmpty then links.done
  else if !links.lineIsOpen then links.failed .ioError
  else { links with line := { links.line with toLine := links.line.toLine ++ bytes } }.done

/-- The far end of the serial line reads bytes. A line that was closed gives what is left and then
fails. -/
def farRead (count : Nat) : Step := fun links =>
  let rest := { links with line := { links.line with fromLine := links.line.fromLine.drop count } }
  if links.line.fromLine.length < count && links.line.wasOpened && !links.lineIsOpen then
    rest.failed .ioError
  else (.ok (.data (links.line.fromLine.take count)), rest)

end LinkStreams

end DeviceRig
