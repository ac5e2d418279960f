import DeviceRig.Link.Address
import DeviceRig.Transport.Error

/-!
Sessions. A session opens transports on demand, holds at most one for each link, and gives all of
them back when it is closed. What a transport is and what opening and closing one does is left
open.
-/
namespace DeviceRig

/-- How transports of a type are dealt with. -/
structure TransportAccess (Held World : Type) where
  address : Held → LinkAddress
  isOpen : Held → Bool
  connect : LinkAddress → World → Except TransportError Held × World
  close : Held → World → Except TransportError Unit × World

/-- The transports that a session holds, in the order of their opening. -/
structure Session (Held : Type) where
  held : List Held
deriving Repr, Inhabited

namespace Session

variable {Held World : Type}

def new : Session Held := ⟨[]⟩

def isFor (access : TransportAccess Held World) (address : LinkAddress) (transport : Held) : Bool :=
  (access.address transport).same address

/-- Closes transports one after the other and keeps the first failure. -/
def closeEach (access : TransportAccess Held World) (world : World) :
    List Held → Except TransportError Unit × World
  | [] => (.ok (), world)
  | transport :: rest =>
    let (answer, world) := access.close transport world
    let (later, world) := closeEach access world rest
    match answer with
    | .ok () => (later, world)
    | .error error => (.error error, world)

def find? (access : TransportAccess Held World) (session : Session Held) (address : LinkAddress) :
    Option Held :=
  session.held.find? fun transport => isFor access address transport && access.isOpen transport

/-- Opens a transport unless an open one is held, and gives it. Dead ones for the address are
dropped first. -/
def openLink (access : TransportAccess Held World) (session : Session Held) (address : LinkAddress)
    (world : World) : Except TransportError Held × Session Held × World :=
  match session.find? access address with
  | some transport => (.ok transport, session, world)
  | none =>
    let dead := session.held.filter (isFor access address)
    let kept := session.held.filter fun transport => !isFor access address transport
    let (_, world) := closeEach access world dead
    match access.connect address world with
    | (.ok transport, world) => (.ok transport, ⟨kept ++ [transport]⟩, world)
    | (.error error, world) => (.error error, ⟨kept⟩, world)

/-- Closes and forgets the transport for an address, if one is held. -/
def release (access : TransportAccess Held World) (session : Session Held) (address : LinkAddress)
    (world : World) : Except TransportError Unit × Session Held × World :=
  match session.held.find? (isFor access address) with
  | none => (.ok (), session, world)
  | some transport =>
    let (answer, world) := access.close transport world
    (answer, ⟨session.held.eraseP (isFor access address)⟩, world)

def close (access : TransportAccess Held World) (session : Session Held) (world : World) :
    Except TransportError Unit × Session Held × World :=
  let (answer, world) := closeEach access world session.held
  (answer, new, world)

def openCount (access : TransportAccess Held World) (session : Session Held) : Nat :=
  (session.held.filter access.isOpen).length

def modify {α : Type} (access : TransportAccess Held World) (session : Session Held)
    (address : LinkAddress) (world : World) (use : Held → World → α × Held × World) :
    Option (α × Session Held × World) :=
  match session.held.find? (isFor access address) with
  | none => none
  | some transport =>
    let (answer, used, world) := use transport world
    let held := session.held.map fun other => if isFor access address other then used else other
    some (answer, ⟨held⟩, world)

end Session

end DeviceRig
