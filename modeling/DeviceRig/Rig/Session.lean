import DeviceRig.Rig.Station
import DeviceRig.Session.Basic

/-!
Sessions at a rig. All transports of a session share its settings; a task has a session of its own.
-/
namespace DeviceRig

open Json

/-- How stations are dealt with: a new one has the given settings. -/
def Station.access (settings : TransportSettings) : TransportAccess Station Rig where
  address := Station.address
  isOpen := Station.isOpen
  connect address rig :=
    let (answer, station, rig) := Station.openLink (.new address settings .all) rig
    (answer.map fun () => station, rig)
  close station rig :=
    let (answer, _, rig) := station.close rig
    (answer, rig)

structure RigSession where
  settings : TransportSettings
  taskIndex : Option Nat
  session : Session Station
  rig : Rig

namespace RigSession

def new (settings : TransportSettings) (taskIndex : Option Nat) (rig : Rig) : RigSession :=
  ⟨settings, taskIndex, .new, rig⟩

def meet (place : RigSession) : RigSession :=
  let (held, rig) := place.rig.meetAll place.session.held
  { place with session := ⟨held⟩, rig }

/-- Opens a transport and gives the address that the one now held was opened for. -/
def openLink (address : LinkAddress) (place : RigSession) :
    Except TransportError LinkAddress × RigSession :=
  let (answer, session, rig) :=
    place.session.openLink (Station.access place.settings) address place.rig
  (answer.map Station.address, { place with session, rig }.meet)

def withOpen {α : Type} (address : LinkAddress) (use : Station.Step (Except TransportError α))
    (place : RigSession) : Except TransportError α × RigSession :=
  match place.openLink address with
  | (.error error, place) => (.error error, place)
  | (.ok _, place) =>
    match place.session.modify (Station.access place.settings) address place.rig use with
    | none => (.error .notOpen, place)
    | some (answer, session, rig) => (answer, { place with session, rig }.meet)

def release (address : LinkAddress) (place : RigSession) :
    Except TransportError Unit × RigSession :=
  let (answer, session, rig) :=
    place.session.release (Station.access place.settings) address place.rig
  (answer, { place with session, rig }.meet)

def close (place : RigSession) : Except TransportError Unit × RigSession :=
  let (answer, session, rig) := place.session.close (Station.access place.settings) place.rig
  (answer, { place with session, rig }.meet)

def openCount (place : RigSession) : Nat :=
  place.session.openCount (Station.access place.settings)

/-- Closes the transport for an address, opening it first if need be, and keeps it. -/
def closeTransport (address : LinkAddress) (place : RigSession) :
    Except TransportError Unit × RigSession :=
  place.withOpen address Station.close

def echo (address : LinkAddress) (text : String) (place : RigSession) :
    Except TransportError (Bool × String) × RigSession :=
  place.withOpen address (Station.echo text)

end RigSession

end DeviceRig
