import DeviceRig.Decimal.Shortest
import DeviceRig.Process.Shell.Arithmetic

/-!
Text that commands print: escapes behind backslashes, and formats, whose conversions take arguments
as texts, integers or decimals. A format is gone through again as long as arguments are left.
-/
namespace DeviceRig.Shell

/-! Escapes -/

def octalDigits (text : ByteText) : ByteText :=
  (text.take 3).takeWhile fun c => '0' ≤ c && c ≤ '7'

/-- What stands behind a backslash: the character it means and what follows. An unknown letter
stays where it is, behind the backslash. -/
def escapeAt : ByteText → Char × ByteText
  | [] => ('\\', [])
  | c :: rest =>
    match c with
    | '\\' => ('\\', rest)
    | 'a' => ('\x07', rest)
    | 'b' => ('\x08', rest)
    | 'f' => ('\x0c', rest)
    | 'n' => ('\n', rest)
    | 'r' => ('\r', rest)
    | 't' => ('\t', rest)
    | 'v' => ('\x0b', rest)
    | _ =>
      match octalDigits (c :: rest) with
      | [] => ('\\', c :: rest)
      | digits =>
        (Char.ofNat ((Calculation.digitsIn 8 digits).1 % 256), (c :: rest).drop digits.length)

/-- A text with its escapes read, of which some may start with a zero, and whether it asks to stop
there. -/
def unescaped : Nat → ByteText → ByteText × Bool
  | 0, _ => ([], false)
  | _ + 1, [] => ([], false)
  | count + 1, c :: rest =>
    if c ≠ '\\' then
      let (text, stops) := unescaped count rest
      (c :: text, stops)
    else if rest.head? = some 'c' then ([], true)
    else
      let start := match rest with
        | '0' :: after => if (octalDigits after).isEmpty then rest else after
        | _ => rest
      let (meant, after) := escapeAt start
      let (text, stops) := unescaped count after
      (meant :: text, stops)

def echoText (arguments : List ByteText) : ByteText :=
  let (words, feed) := match arguments with
    | ['-', 'n'] :: rest => (rest, [])
    | _ => (arguments, ['\n'])
  let text := [' '].intercalate words
  let (text, stops) := unescaped (text.length + 1) text
  if stops then text else text ++ feed

/-! Conversions -/

structure FieldLayout where
  flags : List Char
  width : Nat
  places : Option Nat
deriving Repr, Inhabited

namespace FieldLayout

def has (layout : FieldLayout) (flag : Char) : Bool := layout.flags.contains flag

def pad (layout : FieldLayout) (text : ByteText) : ByteText :=
  let blanks := List.replicate (layout.width - text.length) ' '
  if layout.has '-' then text ++ blanks else blanks ++ text

def padNumber (layout : FieldLayout) (zeros : Bool) (sign digits : ByteText) : ByteText :=
  if zeros && layout.has '0' && !layout.has '-' then
    sign ++ List.replicate (layout.width - sign.length - digits.length) '0' ++ digits
  else layout.pad (sign ++ digits)

def signOf (layout : FieldLayout) (negative : Bool) : ByteText :=
  if negative then ['-'] else if layout.has '+' then ['+'] else if layout.has ' ' then [' '] else []

def text (layout : FieldLayout) (value : ByteText) : ByteText :=
  layout.pad (match layout.places with
    | some places => value.take places
    | none => value)

def integer (layout : FieldLayout) (letter : Char) (value : Int) : ByteText :=
  let signed := letter = 'd' || letter = 'i'
  let magnitude := if signed then value.natAbs else Calculation.bits value
  let base := if letter = 'o' then 8 else if letter = 'x' || letter = 'X' then 16 else 10
  let digits := Nat.toDigits base magnitude
  let digits := if letter = 'X' then digits.map Char.toUpper else digits
  let digits := match layout.places with
    | some places =>
      if magnitude = 0 && places = 0 then []
      else List.replicate (places - digits.length) '0' ++ digits
    | none => digits
  let alternate := layout.has '#'
  let digits :=
    if alternate && letter = 'o' && digits.head? ≠ some '0' then '0' :: digits else digits
  let sign :=
    if signed then layout.signOf (value < 0)
    else if alternate && magnitude ≠ 0 && base = 16 then ['0', letter]
    else []
  layout.padNumber layout.places.isNone sign digits

def rounded (numerator denominator : Nat) : Nat :=
  let below := numerator / denominator
  let twice := 2 * (numerator % denominator)
  if twice < denominator || (twice = denominator && below % 2 = 0) then below else below + 1

def withPoint (alternate : Bool) (places number : Nat) : ByteText :=
  let digits := Nat.toDigits 10 number
  let digits := List.replicate (places + 1 - digits.length) '0' ++ digits
  let whole := digits.take (digits.length - places)
  if places = 0 then if alternate then whole ++ ['.'] else whole
  else whole ++ '.' :: digits.drop (digits.length - places)

def fixed (alternate : Bool) (places numerator denominator : Nat) : ByteText :=
  withPoint alternate places (rounded (numerator * Nat.pow 10 places) denominator)

/-- The digits of a fraction as one with so many places behind its first digit, and its power of
ten. -/
def scientific (places numerator denominator : Nat) : Nat × Int :=
  if numerator = 0 then (0, 0)
  else
    let power := Decimal.pointPosition numerator denominator - 1
    let shift : Int := places - power
    let number := rounded (numerator * Nat.pow 10 shift.toNat)
      (denominator * Nat.pow 10 (-shift).toNat)
    if Nat.pow 10 (places + 1) ≤ number then (number / 10, power + 1) else (number, power)

def exponentText (power : Int) : ByteText :=
  let digits := Nat.toDigits 10 power.natAbs
  ['e', if power < 0 then '-' else '+'] ++ (if digits.length < 2 then '0' :: digits else digits)

def withoutFinalZeros (text : ByteText) : ByteText :=
  if text.contains '.' then
    ((text.reverse.dropWhile (· = '0')).dropWhile (· = '.')).reverse
  else text

def decimalText (letter : Char) (alternate : Bool) (places : Option Nat)
    (numerator denominator : Nat) : ByteText :=
  match letter with
  | 'f' => fixed alternate (places.getD 6) numerator denominator
  | 'e' =>
    let places := places.getD 6
    let (number, power) := scientific places numerator denominator
    withPoint alternate places number ++ exponentText power
  | _ =>
    let digits := max 1 (places.getD 6)
    let (number, power) := scientific (digits - 1) numerator denominator
    let trim (text : ByteText) := if alternate then text else withoutFinalZeros text
    if power < -4 || (digits : Int) ≤ power then
      trim (withPoint alternate (digits - 1) number) ++ exponentText power
    else
      trim (fixed alternate ((digits : Int) - 1 - power).toNat numerator denominator)

def float (layout : FieldLayout) (letter : Char) (value : Float) : ByteText :=
  let bits := value.toBits
  let capital (text : ByteText) := if letter.isUpper then text.map Char.toUpper else text
  let sign := layout.signOf (Decimal.isNegative bits)
  match Decimal.Binary.ofBits? bits with
  | none =>
    let text := if value == value then "inf".toList else "nan".toList
    layout.pad (sign ++ capital text)
  | some magnitude =>
    let numerator := magnitude.mantissa * Nat.pow 2 magnitude.exponent.toNat
    let denominator := Nat.pow 2 (-magnitude.exponent).toNat
    let text := decimalText letter.toLower (layout.has '#') layout.places numerator denominator
    layout.padNumber true sign (capital text)

end FieldLayout

/-! Arguments as numbers -/

/-- A number that an argument starts with, what follows it, and whether it was out of range. -/
structure NumberRead where
  value : Int
  rest : ByteText
  outOfRange : Bool

def largestBits : Int := 18446744073709551615

def integerOf (signed : Bool) (argument : ByteText) : NumberRead :=
  let start := argument.dropWhile Calculation.isSpace
  let (negative, digits) := match start with
    | '-' :: rest => (true, rest)
    | '+' :: rest => (false, rest)
    | _ => (false, start)
  if digits.head?.all fun c => !isDigit c then ⟨0, argument, false⟩
  else
    let (magnitude, rest) := Calculation.magnitude digits
    let value : Int := if negative then -(magnitude : Int) else magnitude
    let largest := Calculation.largest
    if signed then
      if largest < value then ⟨largest, rest, true⟩
      else if value < -largest - 1 then ⟨-largest - 1, rest, true⟩
      else ⟨value, rest, false⟩
    else if largestBits < (magnitude : Int) then ⟨largestBits, rest, true⟩
    else ⟨value, rest, false⟩

structure FloatRead where
  value : Float
  rest : ByteText

def startsWithWord? (word : String) (text : ByteText) : Option ByteText :=
  if (text.take word.length).map Char.toLower = word.toList then some (text.drop word.length)
  else none

def powerAt (text : ByteText) : Int × ByteText :=
  let digitsAt (negative : Bool) (digits : ByteText) : Int × ByteText :=
    if digits.head?.any isDigit then
      let (value, rest) := Calculation.digitsIn 10 digits
      (if negative then -(value : Int) else value, rest)
    else (0, text)
  match text with
  | 'e' :: '-' :: rest | 'E' :: '-' :: rest => digitsAt true rest
  | 'e' :: '+' :: rest | 'E' :: '+' :: rest => digitsAt false rest
  | 'e' :: rest | 'E' :: rest => digitsAt false rest
  | _ => (0, text)

def floatOf (argument : ByteText) : FloatRead :=
  let start := argument.dropWhile Calculation.isSpace
  let (negative, body) := match start with
    | '-' :: rest => (true, rest)
    | '+' :: rest => (false, rest)
    | _ => (false, start)
  let signed (value : Float) := if negative then -value else value
  let whole := body.takeWhile isDigit
  let behind := body.dropWhile isDigit
  let (places, behind) := match behind with
    | '.' :: rest => (rest.takeWhile isDigit, rest.dropWhile isDigit)
    | _ => ([], behind)
  if whole.isEmpty && places.isEmpty then
    match startsWithWord? "infinity" body, startsWithWord? "inf" body,
      startsWithWord? "nan" body with
    | some rest, _, _ | none, some rest, _ => ⟨signed (1.0 / 0.0), rest⟩
    | none, none, some rest => ⟨signed (0.0 / 0.0), rest⟩
    | none, none, none => ⟨0, argument⟩
  else
    let digits := (Calculation.digitsIn 10 (whole ++ places)).1
    let (power, rest) := powerAt behind
    let power := max (-2000) (min 2000 (power - (places.length : Int)))
    ⟨signed (Float.ofScientific digits (power < 0) power.natAbs), rest⟩

/-! Formats -/

structure Formatted where
  text : Array Char
  complaints : List String
  flaw : Option String
  stops : Bool
  arguments : List ByteText
deriving Inhabited

namespace Formatted

def add (state : Formatted) (text : ByteText) : Formatted :=
  { state with text := state.text ++ text.toArray }

def next (state : Formatted) : ByteText × Formatted :=
  (state.arguments.headD [], { state with arguments := state.arguments.drop 1 })

def check (state : Formatted) (argument rest : ByteText) (outOfRange : Bool) : Formatted :=
  let complaint (what : String) :=
    { state with complaints := state.complaints ++ [argument.toText ++ ": " ++ what] }
  if !rest.isEmpty then
    complaint (if rest = argument then "expected numeric value" else "not completely converted")
  else if outOfRange then complaint "Numerical result out of range"
  else state

def quotedValue? : ByteText → Option Nat
  | '"' :: rest | '\'' :: rest => some ((rest.head?.map Char.toNat).getD 0)
  | _ => none

def nextInteger (state : Formatted) (signed : Bool) : Int × Formatted :=
  let (argument, state) := state.next
  match quotedValue? argument with
  | some value => (value, state)
  | none =>
    let read := integerOf signed argument
    (read.value, state.check argument read.rest read.outOfRange)

def nextFloat (state : Formatted) : Float × Formatted :=
  let (argument, state) := state.next
  match quotedValue? argument with
  | some value => (Float.ofNat value, state)
  | none =>
    let read := floatOf argument
    (read.value, state.check argument read.rest false)

def convert (state : Formatted) (layout : FieldLayout) (directive : ByteText) (letter : Char) :
    Formatted :=
  match letter with
  | 'b' =>
    let (argument, state) := state.next
    let (text, stops) := unescaped (argument.length + 1) argument
    { state.add (layout.text text) with stops }
  | 'c' =>
    let (argument, state) := state.next
    state.add (layout.pad [argument.headD '\x00'])
  | 's' =>
    let (argument, state) := state.next
    state.add (layout.text argument)
  | 'd' | 'i' =>
    let (value, state) := state.nextInteger true
    state.add (layout.integer letter value)
  | 'o' | 'u' | 'x' | 'X' =>
    let (value, state) := state.nextInteger false
    state.add (layout.integer letter value)
  | 'e' | 'E' | 'f' | 'F' | 'g' | 'G' =>
    let (value, state) := state.nextFloat
    state.add (layout.float letter value)
  | _ => { state with flaw := some (directive.toText ++ ": invalid directive") }

/-- A number that a format holds, or that the next argument does if a star stands there. -/
def lengthAt (state : Formatted) : ByteText → Option Int × ByteText × Formatted
  | '*' :: rest =>
    let (value, state) := state.nextInteger true
    (some value, rest, state)
  | text =>
    let digits := text.takeWhile isDigit
    let value : Option Int :=
      if digits.isEmpty then none else some ((Calculation.digitsIn 10 digits).1 : Int)
    (value, text.dropWhile isDigit, state)

def maxWidth : Nat := 100000

def conversion (state : Formatted) (format : ByteText) : Formatted × ByteText :=
  let isFlag := fun c => "#-+ 0".toList.contains c
  let (width, behind, state) := state.lengthAt (format.dropWhile isFlag)
  let (places, behind, state) := match behind with
    | '.' :: rest =>
      let (places, rest, state) := state.lengthAt rest
      (some (places.getD 0), rest, state)
    | _ => (none, behind, state)
  let flags := format.takeWhile isFlag
  let width := width.getD 0
  let layout : FieldLayout :=
    ⟨if width < 0 then '-' :: flags else flags, min maxWidth width.natAbs,
      places.bind fun places => if places < 0 then none else some (min maxWidth places.toNat)⟩
  match behind with
  | [] => ({ state with flaw := some "missing format character" }, [])
  | letter :: rest =>
    (state.convert layout ('%' :: format.take (format.length - rest.length)) letter, rest)

def through (state : Formatted) : Nat → ByteText → Formatted
  | 0, _ => state
  | _ + 1, [] => state
  | count + 1, c :: rest =>
    if state.stops || state.flaw.isSome then state
    else if c = '\\' then
      let (meant, after) := escapeAt rest
      (state.add [meant]).through count after
    else if c ≠ '%' then (state.add [c]).through count rest
    else
      match rest with
      | '%' :: after => (state.add ['%']).through count after
      | _ =>
        let (state, after) := state.conversion rest
        state.through count after

def repeated (state : Formatted) (format : ByteText) : Nat → Formatted
  | 0 => state
  | rounds + 1 =>
    let after := state.through (format.length + 1) format
    let tookSome := after.arguments.length < state.arguments.length
    if after.stops || after.flaw.isSome || after.arguments.isEmpty || !tookSome then after
    else after.repeated format rounds

end Formatted

def formatted (format : ByteText) (arguments : List ByteText) : Formatted :=
  (⟨#[], [], none, false, arguments⟩ : Formatted).repeated format (arguments.length + 1)

end DeviceRig.Shell
