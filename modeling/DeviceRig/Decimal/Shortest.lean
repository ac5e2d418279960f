/-!
The shortest decimal of a binary floating-point number. A finite double is `m * 2 ^ q`; the reals
that round to it form an interval around it, whose ends belong to it when `m` is even. Of all
decimals in that interval those with the fewest digits are kept, and of them the nearest. Where two
are equally near, the use of the number decides.
-/
namespace DeviceRig.Decimal

/-- Which of two equally near decimals is taken: the one with the even last digit, or the larger. -/
inductive Halfway where
  | toEven
  | up
deriving DecidableEq, Repr

/-- The parts of a finite double: the integer `mantissa`, the power of two it is multiplied with,
and whether the next smaller double lies only half as far away as the next larger one. -/
structure Binary where
  mantissa : Nat
  exponent : Int
  narrowBelow : Bool
deriving DecidableEq, Repr

def fractionValues : Nat := 0x10000000000000

def exponentValues : Nat := 2048

/-- The magnitude of a double from its bits; none for infinities and what is no number. -/
def Binary.ofBits? (bits : UInt64) : Option Binary :=
  let fraction := bits.toNat % fractionValues
  let biased : Nat := bits.toNat / fractionValues % exponentValues
  if biased = 2047 then none
  else if biased = 0 then some ⟨fraction, -1074, false⟩
  else some ⟨fractionValues + fraction, (biased : Int) - 1075, fraction = 0 && 1 < biased⟩

def isNegative (bits : UInt64) : Bool :=
  fractionValues * exponentValues ≤ bits.toNat

structure Digits where
  digits : Nat
  exponent : Int
deriving DecidableEq, Repr, Inhabited

def digitCount (n : Nat) : Nat :=
  (Nat.toDigits 10 n).length

/-- The least `n` from `start` on, within `fuel` steps, with `denominator ≤ numerator * 10 ^ n`. -/
def leadingZeros (numerator denominator start : Nat) : Nat → Nat
  | 0 => start
  | fuel + 1 =>
    if denominator ≤ numerator * Nat.pow 10 start then start
    else leadingZeros numerator denominator (start + 1) fuel

/-- The number of digits before the point of a positive fraction; for one below a tenth, the
negative of the number of zeros right behind the point. -/
def pointPosition (numerator denominator : Nat) : Int :=
  if denominator ≤ numerator then digitCount (numerator / denominator)
  else
    let guess := digitCount denominator - digitCount numerator - 1
    1 - (leadingZeros numerator denominator guess 3 : Int)

/-- An interval of fractions over one denominator, with a value inside it. -/
structure Interval where
  low : Nat
  value : Nat
  high : Nat
  denominator : Nat
  closed : Bool

/-- The reals that round to a double, in quarters of its last place. -/
def Binary.interval (x : Binary) : Interval :=
  let quarter := x.exponent - 2
  let numerator := Nat.pow 2 quarter.toNat
  let below := if x.narrowBelow then 1 else 2
  ⟨(4 * x.mantissa - below) * numerator, 4 * x.mantissa * numerator,
    (4 * x.mantissa + 2) * numerator, Nat.pow 2 (-quarter).toNat, x.mantissa % 2 = 0⟩

def Interval.contains (i : Interval) (point : Nat) : Bool :=
  if i.closed then i.low ≤ point && point ≤ i.high else i.low < point && point < i.high

def Interval.scale (i : Interval) (power : Int) : Interval :=
  let up := Nat.pow 10 (-power).toNat
  ⟨i.low * up, i.value * up, i.high * up, i.denominator * Nat.pow 10 power.toNat, i.closed⟩

/-- The grid point of the interval that is nearest to the value, if there is one. -/
def Interval.gridPoint? (i : Interval) (halfway : Halfway) : Option Nat :=
  let below := i.value / i.denominator
  let rest := i.value % i.denominator
  let lower := i.contains (below * i.denominator)
  let upper := i.contains ((below + 1) * i.denominator)
  if lower && upper then
    let stays := halfway = .toEven && below % 2 = 0
    if 2 * rest < i.denominator || (2 * rest = i.denominator && stays) then some below
    else some (below + 1)
  else if lower then some below
  else if upper then some (below + 1)
  else none

/-- Tries one digit more after the other. A value right below a power of ten may round up to it. -/
def shortestFrom (halfway : Halfway) (i : Interval) (point : Int) (count : Nat) : Nat → Digits
  | 0 => ⟨0, 0⟩
  | fuel + 1 =>
    let power := point - count
    match (i.scale power).gridPoint? halfway with
    | some digits => if digits = Nat.pow 10 count then ⟨1, point⟩ else ⟨digits, power⟩
    | none => shortestFrom halfway i point (count + 1) fuel

/-- The shortest digits of a magnitude; seventeen always suffice. -/
def Binary.shortest (halfway : Halfway) (x : Binary) : Digits :=
  if x.mantissa = 0 then ⟨0, 0⟩
  else
    let i := x.interval
    shortestFrom halfway i (pointPosition i.value i.denominator) 1 18

/-- How a number is laid out: which positions of the point are written without an exponent,
whether a whole number keeps a point and a zero, and which of two equally near decimals is it. -/
structure Layout where
  pointFrom : Int
  pointTo : Int
  wholeTail : String
  halfway : Halfway

/-- Numbers in JSON text: a point within five places before and sixteen behind the first digit,
else an exponent with its sign. -/
def jsonLayout : Layout := ⟨-4, 16, ".0", .toEven⟩

/-- Numbers in messages: never an exponent, and no point in a whole number; a half goes up. -/
def plainLayout : Layout := ⟨-400, 400, "", .up⟩

def zeros (count : Nat) : String :=
  String.ofList (List.replicate count '0')

/-- The digits of a positive decimal with the point and exponent that the layout asks for. -/
def Layout.magnitude (layout : Layout) (x : Digits) : String :=
  let digits := Nat.toDigits 10 x.digits
  let point : Int := digits.length + x.exponent
  if 0 ≤ x.exponent ∧ point ≤ layout.pointTo then
    String.ofList digits ++ zeros x.exponent.toNat ++ layout.wholeTail
  else if 0 < point ∧ point ≤ layout.pointTo then
    String.ofList (digits.take point.toNat) ++ "." ++ String.ofList (digits.drop point.toNat)
  else if layout.pointFrom ≤ point ∧ point ≤ 0 then
    "0." ++ zeros (-point).toNat ++ String.ofList digits
  else
    let sign := if 0 < point then "+" else ""
    let tail := if digits.length = 1 then "" else "." ++ String.ofList (digits.drop 1)
    String.ofList (digits.take 1) ++ tail ++ "e" ++ sign ++ toString (point - 1)

def Layout.text (layout : Layout) (x : Float) : String :=
  let bits := x.toBits
  let sign := if isNegative bits then "-" else ""
  match Binary.ofBits? bits with
  | none => if bits.toNat % fractionValues = 0 then sign ++ "inf" else "NaN"
  | some magnitude =>
    if magnitude.mantissa = 0 then sign ++ "0" ++ layout.wholeTail
    else sign ++ layout.magnitude (magnitude.shortest layout.halfway)

def maxScale : Nat := 308

def powerOfTen (exponent : Nat) : Float :=
  Float.ofScientific 1 false exponent

/-- Divides by the largest power of ten, so many times or until nothing is left. -/
def scaleDown (x : Float) : Nat → Float
  | 0 => x
  | steps + 1 => if x == 0.0 then x else scaleDown (x / powerOfTen maxScale) steps

/-- The double that a decimal is read as: its digits as a double, multiplied with a power of ten or
divided by one. Every step rounds, so this need not be the nearest one. None if it is beyond the
finite doubles. -/
def scaled? (negative : Bool) (x : Digits) : Option Float :=
  let digits := Float.ofNat x.digits
  let magnitude :=
    if x.exponent < 0 then
      let places := (-x.exponent).toNat
      let steps := (places - 1) / maxScale
      scaleDown digits steps / powerOfTen (places - steps * maxScale)
    else if x.digits = 0 then digits
    else if maxScale < x.exponent then 1.0 / 0.0
    else digits * powerOfTen x.exponent.toNat
  if magnitude.isInf then none
  else some (if negative then -magnitude else magnitude)

def wholePart (x : Float) : Nat :=
  match Binary.ofBits? x.toBits with
  | none => 0
  | some parts =>
    parts.mantissa * Nat.pow 2 parts.exponent.toNat / Nat.pow 2 (-parts.exponent).toNat

end DeviceRig.Decimal
