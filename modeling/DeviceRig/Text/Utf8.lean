/-!
Text from bytes. A byte sequence is read as UTF-8 one character at a time; a sequence that is cut
short or broken is a defect of so many bytes, the longest part that a valid sequence could start
with. Lossy reading puts the replacement character for each defect, strict reading refuses them.
-/
namespace DeviceRig.Utf8

inductive Piece where
  | char (c : Char)
  | broken (count : Nat)
  /-- So many bytes at the very end, which more bytes could have completed. -/
  | cut (count : Nat)
deriving DecidableEq, Repr

/-- The number of continuation bytes that a first byte asks for, the range of the first of them,
and the bits that the first byte gives. -/
def lead? (byte : UInt8) : Option (Nat × UInt8 × UInt8 × Nat) :=
  let n := byte.toNat
  if n < 0x80 then some (0, 0, 0, n)
  else if 0xC2 ≤ n ∧ n ≤ 0xDF then some (1, 0x80, 0xBF, n - 0xC0)
  else if n = 0xE0 then some (2, 0xA0, 0xBF, 0)
  else if n = 0xED then some (2, 0x80, 0x9F, 13)
  else if 0xE1 ≤ n ∧ n ≤ 0xEF then some (2, 0x80, 0xBF, n - 0xE0)
  else if n = 0xF0 then some (3, 0x90, 0xBF, 0)
  else if 0xF1 ≤ n ∧ n ≤ 0xF3 then some (3, 0x80, 0xBF, n - 0xF0)
  else if n = 0xF4 then some (3, 0x80, 0x8F, 4)
  else none

def follow (taken value : Nat) (low high : UInt8) : Nat → List UInt8 → Piece × List UInt8
  | 0, rest => (.char (Char.ofNat value), rest)
  | _ + 1, [] => (.cut taken, [])
  | needed + 1, byte :: rest =>
    if low ≤ byte ∧ byte ≤ high then
      follow (taken + 1) (value * 64 + (byte.toNat - 0x80)) 0x80 0xBF needed rest
    else (.broken taken, byte :: rest)

theorem follow_length_le (taken value needed : Nat) (low high : UInt8) (bytes : List UInt8) :
    (follow taken value low high needed bytes).2.length ≤ bytes.length := by
  induction needed generalizing taken value low high bytes with
  | zero => simp [follow]
  | succ needed ih =>
    cases bytes with
    | nil => simp [follow]
    | cons byte rest =>
      simp only [follow]
      split
      · exact Nat.le_trans (ih ..) (Nat.le_succ _)
      · exact Nat.le_refl _

def next (byte : UInt8) (rest : List UInt8) : Piece × List UInt8 :=
  match lead? byte with
  | none => (.broken 1, rest)
  | some (needed, low, high, value) => follow 1 value low high needed rest

theorem next_length_le (byte : UInt8) (rest : List UInt8) :
    (next byte rest).2.length ≤ rest.length := by
  unfold next
  split
  · exact Nat.le_refl _
  · exact follow_length_le ..

def Piece.toChar : Piece → Char
  | .char c => c
  | .broken _ | .cut _ => Char.ofNat 0xFFFD

/-- Appends the characters of some bytes to a text, one replacement character per defect. -/
def appendLossy (text : String) (bytes : List UInt8) : String :=
  match bytes with
  | [] => text
  | byte :: rest => appendLossy (text.push (next byte rest).1.toChar) (next byte rest).2
termination_by bytes.length
decreasing_by exact Nat.lt_succ_of_le (next_length_le byte rest)

def lossy (bytes : List UInt8) : String :=
  appendLossy "" bytes

/-- The first defect: how many bytes stand before it, and how many it has unless more bytes could
have completed it. -/
structure Defect where
  before : Nat
  count : Option Nat
deriving DecidableEq, Repr

def defectFrom? (before : Nat) (bytes : List UInt8) : Option Defect :=
  match bytes with
  | [] => none
  | byte :: rest =>
    match (next byte rest).1 with
    | .char _ =>
      defectFrom? (before + (rest.length + 1 - (next byte rest).2.length)) (next byte rest).2
    | .broken count => some ⟨before, some count⟩
    | .cut _ => some ⟨before, none⟩
termination_by bytes.length
decreasing_by exact Nat.lt_succ_of_le (next_length_le byte rest)

def defect? (bytes : List UInt8) : Option Defect :=
  defectFrom? 0 bytes

def Defect.message : Defect → String
  | ⟨before, some count⟩ => s!"invalid utf-8 sequence of {count} bytes from index {before}"
  | ⟨before, none⟩ => s!"incomplete utf-8 byte sequence from index {before}"

def text? (bytes : List UInt8) : Option String :=
  String.fromUTF8? bytes.toByteArray

def bytes (text : String) : List UInt8 :=
  text.toUTF8.toList

end DeviceRig.Utf8
