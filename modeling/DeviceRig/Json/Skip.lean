import DeviceRig.Json.Nested

/-!
Skipping values that nobody asked for. Only their outline is checked: brackets, commas, colons and
where texts and numbers end. They may nest to any depth, a number may be out of range, and an
escaped code point may be half a pair.
-/
namespace DeviceRig.Json

inductive Bracket where
  | square
  | curly
deriving DecidableEq, Repr

namespace Bracket

def close : Bracket → UInt8
  | .square => 93
  | .curly => 125

def endMissing : Bracket → Cause
  | .square => .endOfList
  | .curly => .endOfObject

def commaExpected : Bracket → Cause
  | .square => .listCommaExpected
  | .curly => .objectCommaExpected

end Bracket

/-- How a skipped text ends: the cause if it is a bad one, and the bytes left. -/
def skippedText : List UInt8 → Option Cause × List UInt8
  | [] => (some .endOfText, [])
  | 34 :: rest => (none, rest)
  | 92 :: [] => (some .endOfText, [])
  | 92 :: 117 :: rest =>
    match rest with
    | a :: b :: c :: d :: rest =>
      if [a, b, c, d].all fun byte => (hexValue? byte).isSome then skippedText rest
      else (some .badEscape, rest)
    | _ => (some .endOfText, [])
  | 92 :: byte :: rest =>
    if [34, 92, 47, 98, 102, 110, 114, 116].contains byte then skippedText rest
    else (some .badEscape, rest)
  | byte :: rest => if byte < 32 then (some .controlInText, rest) else skippedText rest

namespace Reader

/-- Skips a text whose opening quote was taken. A control byte that ends it counts as taken only
in a stream. -/
def skipText : Reader Unit := fun cursor =>
  match skippedText cursor.rest with
  | (none, rest) => (.ok (), ⟨rest, false⟩)
  | (some .controlInText, rest) =>
    (.error ⟨.controlInText, some ⟨rest.length + 1, rest.length⟩⟩, ⟨rest, false⟩)
  | (some cause, rest) => failHere cause ⟨rest, false⟩

def skipExponent : Reader Unit := do
  advance
  match ← peek with
  | some sign => if sign = 43 || sign = 45 then advance
  | none => pure ()
  match ← next with
  | some byte =>
    if isDigit byte then let _ ← digits else failHere .badNumber
  | none => failHere .badNumber

def skipNumber : Reader Unit := do
  match ← next with
  | none => failHere .badNumber
  | some first =>
    if first = 48 then
      match ← peek with
      | some byte => if isDigit byte then failAhead .badNumber
      | none => pure ()
    else if isDigit first then let _ ← digits
    else failHere .badNumber
  match ← peek with
  | some byte =>
    if byte = 46 then
      advance
      if (← digits).isEmpty then failAhead .badNumber
      match ← peek with
      | some byte => if byte = 101 || byte = 69 then skipExponent
      | none => pure ()
    else if byte = 101 || byte = 69 then skipExponent
  | none => pure ()

def skipScalar (first : UInt8) : Reader Unit := do
  if first = 34 then
    advance
    skipText
  else if first = 45 then
    advance
    skipNumber
  else if isDigit first then skipNumber
  else let _ ← scalar first

/-- Closes the brackets that end here and gives those that stay open. Behind an opening bracket no
comma may stand yet. -/
def skipEnds (behindValue : Bool) : List Bracket → Reader (List Bracket)
  | [] => return []
  | bracket :: outer => do
    match ← skipBlanks with
    | none => failAhead bracket.endMissing
    | some byte =>
      if byte = 44 && behindValue then
        advance
        return bracket :: outer
      else if byte = bracket.close then
        advance
        skipEnds true outer
      else if behindValue then failAhead bracket.commaExpected
      else return bracket :: outer

def skipName : Reader Unit := do
  match ← skipBlanks with
  | none => failAhead .endOfObject
  | some byte => if byte = 34 then advance else failAhead .keyNotText
  skipText
  colon

/-- Skips values until all brackets are closed. Every value takes a byte. -/
def skipValues (opened : List Bracket) : Nat → Reader Unit
  | 0 => pure ()
  | fuel + 1 => do
    let opened ← match ← skipBlanks with
      | none => failAhead .endOfValue
      | some first =>
        if first = 91 then do
          advance
          skipEnds false (.square :: opened)
        else if first = 123 then do
          advance
          skipEnds false (.curly :: opened)
        else do
          skipScalar first
          skipEnds true opened
    match opened with
    | [] => pure ()
    | .square :: _ => skipValues opened fuel
    | .curly :: _ => do
      skipName
      skipValues opened fuel

def skip : Reader Unit := do
  skipValues [] ((← get).rest.length + 1)

end Reader

end DeviceRig.Json
