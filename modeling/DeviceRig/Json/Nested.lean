import DeviceRig.Json.Scalar

/-!
Reading values of any kind. Lists and objects nest at most 127 deep. A repeated member name keeps
its first place and takes its last value; a raw value still has every member as written.
-/
namespace DeviceRig.Json

def maxDepth : Nat := 127

namespace Reader

def nextItem (first : Bool) : Reader Bool := do
  match ← skipBlanks with
  | none => failAhead .endOfList
  | some byte =>
    if byte = 93 then return false
    else if first then return true
    else if byte = 44 then
      advance
      match ← skipBlanks with
      | none => failAhead .endOfValue
      | some byte => if byte = 93 then failAhead .trailingComma else return true
    else failAhead .listCommaExpected

def memberName : Option UInt8 → Reader String
  | none => failAhead .endOfValue
  | some byte => do
    if byte = 34 then
      advance
      text
    else if byte = 125 then failAhead .trailingComma
    else failAhead .keyNotText

/-- Reads the name of the next member of an object, if there is one. -/
def nextName (first : Bool) : Reader (Option String) := do
  match ← skipBlanks with
  | none => failAhead .endOfObject
  | some byte =>
    if byte = 125 then return none
    else if first then return some (← memberName byte)
    else if byte = 44 then
      advance
      return some (← memberName (← skipBlanks))
    else failAhead .objectCommaExpected

def endList : Reader Unit := do
  match ← skipBlanks with
  | none => failAhead .endOfList
  | some byte =>
    if byte = 93 then advance
    else if byte = 44 then
      advance
      match ← skipBlanks with
      | some 93 => failAhead .trailingComma
      | _ => failAhead .trailingText
    else failAhead .trailingText

def endObject : Reader Unit := do
  match ← skipBlanks with
  | none => failAhead .endOfObject
  | some byte =>
    if byte = 125 then advance
    else if byte = 44 then failAhead .trailingComma
    else failAhead .trailingText

def itemsFrom {α : Type} (item : Reader α) (first : Bool) (found : Array α) : Nat → Reader (Array α)
  | 0 => pure found
  | fuel + 1 => do
    if ← nextItem first then
      itemsFrom item false (found.push (← item)) fuel
    else return found

/-- Reads the items of a list up to its end, which is not taken. Every item takes a byte, so the
bytes left bound their number. -/
def items {α : Type} (item : Reader α) (first : Bool) : Reader (List α) := do
  return (← itemsFrom item first #[] ((← get).rest.length + 1)).toList

def membersFrom {α : Type} (value : Reader α) (first : Bool) (found : Array (String × α)) :
    Nat → Reader (Array (String × α))
  | 0 => pure found
  | fuel + 1 => do
    match ← nextName first with
    | none => return found
    | some name =>
      colon
      membersFrom value false (found.push (name, ← value)) fuel

/-- Reads the members of an object up to its end, which is not taken. -/
def members {α : Type} (value : Reader α) : Reader (List (String × α)) := do
  return (← membersFrom value true #[] ((← get).rest.length + 1)).toList

/-- Reads a value that is neither a list nor an object and whose first byte was looked at. -/
def scalar (first : UInt8) : Reader Value := do
  if first = 110 then
    advance
    word (letters "ull")
    return .null
  else if first = 116 then
    advance
    word (letters "rue")
    return .bool true
  else if first = 102 then
    advance
    word (letters "alse")
    return .bool false
  else if first = 34 then
    advance
    return .text (← text)
  else if first = 45 || isDigit first then return .number (← number first)
  else failAhead .valueExpected

def valueWith (list object : Reader Value) : Reader Value := do
  match ← skipBlanks with
  | none => failAhead .endOfValue
  | some first =>
    if first = 91 then list
    else if first = 123 then object
    else scalar first

def rawValue : Nat → Reader Value
  | 0 => valueWith (failAhead .tooDeep) (failAhead .tooDeep)
  | depth + 1 =>
    valueWith
      (do
        advance
        return .list (← closedBy (items (rawValue depth) true) endList))
      (do
        advance
        return .object (← closedBy (members (rawValue depth)) endObject))

def value (depth : Nat) : Reader Value := do
  return (← rawValue depth).merged

def only {α : Type} (reader : Reader α) : Reader α := do
  let found ← reader
  finish
  return found

end Reader

def parseBytes (source : Source) (bytes : List UInt8) : Except JsonError Value :=
  (Reader.only (Reader.value maxDepth)).run source bytes

def parse (text : String) : Except JsonError Value :=
  parseBytes .whole (Utf8.bytes text)

end DeviceRig.Json
