import DeviceRig.Decimal.Shortest

/-!
Spans of time, counted in nanoseconds. In messages a span is written in the largest unit of which
it has at least one, with as many decimal places as it needs. A count of seconds with a fraction is
rounded to the nearest nanosecond, and a tie to the even one.
-/
namespace DeviceRig

structure Duration where
  nanoseconds : Nat
deriving DecidableEq, Repr, Inhabited

namespace Duration

def ofSeconds (count : Nat) : Duration := ⟨count * 1000000000⟩

def ofMilliseconds (count : Nat) : Duration := ⟨count * 1000000⟩

def seconds (span : Duration) : Nat := span.nanoseconds / 1000000000

def subsecond (span : Duration) : Nat := span.nanoseconds % 1000000000

/-- The decimal places of a remainder, padded to a width and without zeros at the end. -/
def places (width remainder : Nat) : String :=
  let digits := Nat.toDigits 10 remainder
  let padded := List.replicate (width - digits.length) '0' ++ digits
  String.ofList (padded.reverse.dropWhile (· = '0')).reverse

def inUnits (nanoseconds width : Nat) (unit : String) : String :=
  let behind := places width (nanoseconds % Nat.pow 10 width)
  let point := if behind.isEmpty then "" else "."
  toString (nanoseconds / Nat.pow 10 width) ++ point ++ behind ++ unit

def describe (span : Duration) : String :=
  if 1000000000 ≤ span.nanoseconds then inUnits span.nanoseconds 9 "s"
  else if 1000000 ≤ span.nanoseconds then inUnits span.nanoseconds 6 "ms"
  else if 1000 ≤ span.nanoseconds then inUnits span.nanoseconds 3 "µs"
  else inUnits span.nanoseconds 0 "ns"

inductive Flaw where
  | negative
  | tooLong
deriving DecidableEq, Repr, Inhabited

def Flaw.message : Flaw → String
  | .negative => "cannot convert float seconds to Duration: value is negative"
  | .tooLong => "cannot convert float seconds to Duration: value is either too big or NaN"

def roundFraction (numerator denominator : Nat) : Nat :=
  let below := numerator / denominator
  let twice := 2 * (numerator % denominator)
  if twice < denominator || (twice = denominator && below % 2 = 0) then below else below + 1

def ofDecimal (seconds : Float) : Except Flaw Duration :=
  match Decimal.Binary.ofBits? seconds.toBits with
  | none => .error (if seconds < 0.0 then .negative else .tooLong)
  | some parts =>
    let numerator := parts.mantissa * Nat.pow 2 parts.exponent.toNat * 1000000000
    let span := roundFraction numerator (Nat.pow 2 (-parts.exponent).toNat)
    if Decimal.isNegative seconds.toBits && parts.mantissa ≠ 0 then .error .negative
    else if 0x10000000000000000 * 1000000000 ≤ span then .error .tooLong
    else .ok ⟨span⟩

end Duration

end DeviceRig
