import DeviceRig.Json.Error
import DeviceRig.Text.Utf8

/-!
Reading JSON text byte by byte. A reader moves a cursor over the bytes that are left and may fail,
and a failure leaves the cursor where it stood. A place in the text is kept as the number of bytes
behind it. A text that is at hand as a whole is placed by what was consumed; one that comes as a
stream also by the byte that was looked at, since that one had to be taken from the stream.
-/
namespace DeviceRig.Json

inductive Source where
  | whole
  | streamed
deriving DecidableEq, Repr

/-- The numbers of bytes behind a place, for both kinds of source. -/
structure Place where
  whole : Nat
  streamed : Nat
deriving DecidableEq, Repr, Inhabited

structure Failure where
  cause : Cause
  place : Option Place
deriving Inhabited

structure Cursor where
  rest : List UInt8
  peeked : Bool
deriving Inhabited

def Cursor.place (cursor : Cursor) : Place :=
  ⟨cursor.rest.length, if cursor.peeked then cursor.rest.length - 1 else cursor.rest.length⟩

abbrev Reader (α : Type) := ExceptT Failure (StateM Cursor) α

namespace Reader

def failHere {α : Type} (cause : Cause) : Reader α := do
  throw ⟨cause, some (← get).place⟩

def failAhead {α : Type} (cause : Cause) : Reader α := do
  let behind := (← get).rest.length - 1
  throw ⟨cause, some ⟨behind, behind⟩⟩

def failData {α : Type} (data : Mismatch) : Reader α :=
  throw ⟨.mismatch data, none⟩

def placed {α : Type} (reader : Reader α) : Reader α := fun cursor =>
  match reader cursor with
  | (.error ⟨cause, none⟩, after) => (.error ⟨cause, some after.place⟩, after)
  | other => other

/-- Reads an inside and then its end. The end is looked for even if the inside fails, which only
moves the cursor. -/
def closedBy {α : Type} (inside : Reader α) (close : Reader Unit) : Reader α := fun cursor =>
  match inside cursor with
  | (.error failure, after) => (.error failure, (close after).2)
  | (.ok value, after) =>
    match close after with
    | (.error failure, last) => (.error failure, last)
    | (.ok (), last) => (.ok value, last)

def peek : Reader (Option UInt8) := do
  modify fun cursor => { cursor with peeked := !cursor.rest.isEmpty }
  return (← get).rest.head?

def advance : Reader Unit :=
  modify fun cursor => ⟨cursor.rest.drop 1, false⟩

def next : Reader (Option UInt8) := do
  let first := (← get).rest.head?
  advance
  return first

def isSpace (byte : UInt8) : Bool :=
  byte = 32 || byte = 10 || byte = 9 || byte = 13

def skipBlanks : Reader (Option UInt8) := do
  modify fun cursor =>
    match cursor.rest with
    | [] => cursor
    | first :: _ => if isSpace first then ⟨cursor.rest.dropWhile isSpace, false⟩ else cursor
  peek

def word : List UInt8 → Reader Unit
  | [] => pure ()
  | expected :: letters => do
    match ← next with
    | none => failHere .endOfValue
    | some byte => if byte = expected then word letters else failHere .wordExpected

def colon : Reader Unit := do
  match ← skipBlanks with
  | none => failAhead .endOfObject
  | some 58 => advance
  | some _ => failAhead .colonExpected

def finish : Reader Unit := do
  match ← skipBlanks with
  | none => pure ()
  | some _ => failAhead .trailingText

end Reader

def Place.position (place : Place) (source : Source) (text : List UInt8) : Position :=
  let behind := match source with
    | .whole => place.whole
    | .streamed => place.streamed
  Position.behind (text.take (text.length - behind))

def Reader.run {α : Type} (reader : Reader α) (source : Source) (text : List UInt8) :
    Except JsonError α :=
  match (reader ⟨text, false⟩).1 with
  | .ok value => .ok value
  | .error ⟨cause, place⟩ => .error ⟨cause, place.map fun place => place.position source text⟩

def letters (word : String) : List UInt8 :=
  word.toList.map fun c => c.toNat.toUInt8

end DeviceRig.Json
