import DeviceRig.Json.Cursor

/-!
Reading texts and numbers. A text ends at a quote; its escapes stand for single bytes, for a code
point by four hexadecimal digits, or for a pair of surrogates; a control byte inside it is refused.
A number has no leading zeros, and a digit on each side of its point and behind its exponent mark.
-/
namespace DeviceRig.Json

/-- What stands next in a text: its end, some bytes of it, or a failure. -/
inductive TextStep where
  | done (rest : List UInt8)
  | more (bytes : List UInt8) (rest : List UInt8)
  | failed (cause : Cause) (rest : List UInt8)

def TextStep.rest : TextStep → List UInt8
  | .done rest | .more _ rest | .failed _ rest => rest

def hexValue? (byte : UInt8) : Option Nat :=
  let n := byte.toNat
  if 48 ≤ n ∧ n ≤ 57 then some (n - 48)
  else if 65 ≤ n ∧ n ≤ 70 then some (n - 55)
  else if 97 ≤ n ∧ n ≤ 102 then some (n - 87)
  else none

/-- Four hexadecimal digits: their value, or the cause of failure, and the bytes behind them. -/
def fourDigits : List UInt8 → Except Cause Nat × List UInt8
  | a :: b :: c :: d :: rest =>
    match hexValue? a, hexValue? b, hexValue? c, hexValue? d with
    | some a, some b, some c, some d => (.ok (((a * 16 + b) * 16 + c) * 16 + d), rest)
    | _, _, _, _ => (.error .badEscape, rest)
  | _ => (.error .endOfText, [])

theorem fourDigits_length_le (bytes : List UInt8) :
    (fourDigits bytes).2.length ≤ bytes.length := by
  unfold fourDigits
  split
  · split <;> simp only [List.length_cons] <;> omega
  · exact Nat.zero_le _

def isLeadSurrogate (unit : Nat) : Bool := 0xD800 ≤ unit && unit ≤ 0xDBFF

def isTrailSurrogate (unit : Nat) : Bool := 0xDC00 ≤ unit && unit ≤ 0xDFFF

def codePoint (n : Nat) : List UInt8 :=
  String.utf8EncodeChar (Char.ofNat n)

def trailStep (lead : Nat) : List UInt8 → TextStep
  | [] => .failed .endOfText []
  | 92 :: [] => .failed .endOfText []
  | 92 :: 117 :: rest =>
    match fourDigits rest with
    | (.error cause, rest) => .failed cause rest
    | (.ok trail, rest) =>
      if isTrailSurrogate trail then
        .more (codePoint ((lead - 0xD800) * 1024 + (trail - 0xDC00) + 0x10000)) rest
      else .failed .loneSurrogate rest
  | 92 :: _ :: rest => .failed .hexEscapeEnds rest
  | _ :: rest => .failed .hexEscapeEnds rest

def unicodeStep (bytes : List UInt8) : TextStep :=
  match fourDigits bytes with
  | (.error cause, rest) => .failed cause rest
  | (.ok unit, rest) =>
    if isTrailSurrogate unit then .failed .loneSurrogate rest
    else if isLeadSurrogate unit then trailStep unit rest
    else .more (codePoint unit) rest

def escapeStep : List UInt8 → TextStep
  | [] => .failed .endOfText []
  | 117 :: rest => unicodeStep rest
  | 34 :: rest => .more [34] rest
  | 92 :: rest => .more [92] rest
  | 47 :: rest => .more [47] rest
  | 98 :: rest => .more [8] rest
  | 102 :: rest => .more [12] rest
  | 110 :: rest => .more [10] rest
  | 114 :: rest => .more [13] rest
  | 116 :: rest => .more [9] rest
  | _ :: rest => .failed .badEscape rest

def textStep (byte : UInt8) (rest : List UInt8) : TextStep :=
  if byte = 34 then .done rest
  else if byte = 92 then escapeStep rest
  else if byte < 32 then .failed .controlInText rest
  else .more [byte] rest

theorem trailStep_length_le (lead : Nat) (bytes : List UInt8) :
    (trailStep lead bytes).rest.length ≤ bytes.length := by
  unfold trailStep
  split
  · exact Nat.le_refl _
  · simp [TextStep.rest]
  · rename_i rest
    have h := fourDigits_length_le rest
    split <;> rename_i heq <;> rw [heq] at h
    · simp only [TextStep.rest, List.length_cons] at h ⊢
      omega
    · split <;> simp only [TextStep.rest, List.length_cons] at h ⊢ <;> omega
  · simp only [TextStep.rest, List.length_cons]
    omega
  · simp [TextStep.rest]

theorem unicodeStep_length_le (bytes : List UInt8) :
    (unicodeStep bytes).rest.length ≤ bytes.length := by
  have h := fourDigits_length_le bytes
  unfold unicodeStep
  split <;> rename_i heq <;> rw [heq] at h
  · exact h
  · split
    · exact h
    · split
      · exact Nat.le_trans (trailStep_length_le ..) h
      · exact h

theorem escapeStep_length_le (bytes : List UInt8) :
    (escapeStep bytes).rest.length ≤ bytes.length := by
  unfold escapeStep
  split <;> try simp [TextStep.rest]
  exact Nat.le_trans (unicodeStep_length_le _) (Nat.le_succ _)

theorem textStep_length_le (byte : UInt8) (rest : List UInt8) :
    (textStep byte rest).rest.length ≤ rest.length := by
  unfold textStep
  split
  · exact Nat.le_refl _
  · split
    · exact escapeStep_length_le _
    · split <;> exact Nat.le_refl _

/-- The bytes of a text up to its quote, added to those read before, and what is left. -/
def textBytes (before : Array UInt8) (bytes : List UInt8) :
    Except Cause (Array UInt8) × List UInt8 :=
  match bytes with
  | [] => (.error .endOfText, [])
  | byte :: tail =>
    match _h : textStep byte tail with
    | .done rest => (.ok before, rest)
    | .failed cause rest => (.error cause, rest)
    | .more found rest => textBytes (before ++ found) rest
termination_by bytes.length
decreasing_by
  have := textStep_length_le byte tail
  rw [_h] at this
  exact Nat.lt_succ_of_le this

namespace Reader

/-- Reads a text whose opening quote was taken. Bytes that are no UTF-8 fail, at a place counted
back from the closing quote by the bytes that the text stands for: without escapes behind it that
is right behind the first bad byte. -/
def text : Reader String := fun cursor =>
  match textBytes #[] cursor.rest with
  | (.error cause, rest) => failHere cause ⟨rest, false⟩
  | (.ok bytes, rest) =>
    match Utf8.text? bytes.toList with
    | some value => (.ok value, ⟨rest, false⟩)
    | none =>
      let before := match Utf8.defect? bytes.toList with
        | some defect => defect.before
        | none => 0
      let behind := rest.length + (bytes.size - before)
      (.error ⟨.badUnicode, some ⟨behind, behind⟩⟩, ⟨rest, false⟩)

def isDigit (byte : UInt8) : Bool := 48 ≤ byte && byte ≤ 57

def digitValue (byte : UInt8) : Nat := byte.toNat - 48

/-- Takes the digits that come next and looks at the byte behind them. -/
def digits : Reader (List UInt8) := do
  let found := (← get).rest.takeWhile isDigit
  unless found.isEmpty do
    modify fun cursor => ⟨cursor.rest.dropWhile isDigit, false⟩
  let _ ← peek
  return found

def natOf (value : Nat) (found : List UInt8) : Nat :=
  found.foldl (fun value byte => value * 10 + digitValue byte) value

/-- How many digits may follow a value so that it stays within a limit. -/
def lengthWithin (limit value : Nat) : List UInt8 → Nat
  | [] => 0
  | byte :: rest =>
    if limit < value * 10 + digitValue byte then 0
    else lengthWithin limit (value * 10 + digitValue byte) rest + 1

/-- The largest number that the digits of a decimal are kept in. Those that exceed it do not
count. -/
def maxSignificand : Nat := 0xffffffffffffffff

def withWhole (value : Nat) (found : List UInt8) : Decimal.Digits :=
  let used := lengthWithin maxSignificand value found
  ⟨natOf value (found.take used), found.length - used⟩

def withFraction (number : Decimal.Digits) (found : List UInt8) : Decimal.Digits :=
  let used := lengthWithin maxSignificand number.digits found
  ⟨natOf number.digits (found.take used), number.exponent - used⟩

def whole : Reader Decimal.Digits := do
  match ← next with
  | none => failHere .endOfValue
  | some first =>
    if first = 48 then
      match ← peek with
      | some byte => if isDigit byte then failAhead .badNumber else return ⟨0, 0⟩
      | none => return ⟨0, 0⟩
    else if isDigit first then return withWhole (digitValue first) (← digits)
    else failHere .badNumber

def fraction : Reader (List UInt8) := do
  match ← peek with
  | some 46 =>
    advance
    let found ← digits
    if found.isEmpty then
      match ← peek with
      | some _ => failAhead .badNumber
      | none => failAhead .endOfValue
    else return found
  | _ => return []

/-- The largest exponent that is read out; what exceeds it decides the number at once. -/
def maxExponent : Nat := 0x7fffffff

/-- The exponent, if there is one, for a number with the given digits. -/
def exponent (significand : Nat) : Reader (Option Int) := do
  match ← peek with
  | some mark =>
    if mark = 101 || mark = 69 then
      advance
      let negative ← match ← peek with
        | some 43 => do advance; pure false
        | some 45 => do advance; pure true
        | _ => pure false
      match ← next with
      | none => failHere .endOfValue
      | some first =>
        if isDigit first then
          let more := (← get).rest.takeWhile isDigit
          let used := lengthWithin maxExponent (digitValue first) more
          if used < more.length ∧ significand ≠ 0 ∧ !negative then
            modify fun cursor => ⟨cursor.rest.drop (used + 1), false⟩
            failHere .numberOutOfRange
          else
            let _ ← digits
            let magnitude := natOf (digitValue first) more
            return some (if negative then -(magnitude : Int) else magnitude)
        else failHere .badNumber
    else return none
  | none => return none

def unsigned (negative : Bool) : Reader Number := do
  let integral ← whole
  let behind ← fraction
  let digits := withFraction integral behind
  let exponent ← exponent digits.digits
  let value : Int := if negative then -(integral.digits : Int) else integral.digits
  if behind.isEmpty ∧ exponent.isNone ∧ integral.exponent = 0 ∧ fitsInteger value ∧
      !(negative && integral.digits = 0) then
    return .integer value
  else
    match Decimal.scaled? negative ⟨digits.digits, digits.exponent + exponent.getD 0⟩ with
    | some value => return .decimal value
    | none => failHere .numberOutOfRange

def number (first : UInt8) : Reader Number := do
  if first = 45 then
    advance
    unsigned true
  else unsigned false

end Reader

end DeviceRig.Json
