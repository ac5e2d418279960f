import DeviceRig.Proofs.Frame.Stuffing
import Mathlib.Algebra.Group.Nat.Defs
import Mathlib.Logic.Function.Iterate

/-!
# What the checksum detects

Shifting a bit out of the register is linear over exclusive or and injective,
so different registers stay different under the same bytes. Up to four bytes
act as an exclusive or on the whole register, with the first byte in its last
bits. So a change of at most four bytes in a row always changes the register,
and content with its own checksum behind it always leaves the same one.
-/
namespace DeviceRig.Frame

def isOdd (register : UInt32) : Bool :=
  register.toNat.testBit 0

theorem shiftBit_eq (register : UInt32) :
    shiftBit register = (register >>> 1) ^^^ if isOdd register then 0xEDB88320 else 0 := by
  have hOdd : register &&& 1 = 1 ↔ isOdd register = true := by
    rw [isOdd, Nat.testBit_zero, decide_eq_true_iff, ← UInt32.toNat_inj, UInt32.toNat_and,
      UInt32.toNat_one, Nat.and_one_is_mod]
  unfold shiftBit
  by_cases h : isOdd register = true
  · rw [if_pos (hOdd.mpr h), if_pos h]
  · rw [if_neg (mt hOdd.mp h), if_neg h, UInt32.xor_zero]

theorem isOdd_xor (first second : UInt32) :
    isOdd (first ^^^ second) = (isOdd first ^^ isOdd second) := by
  rw [isOdd, UInt32.toNat_xor, Nat.testBit_xor]
  rfl

theorem shiftBit_xor (first second : UInt32) :
    shiftBit (first ^^^ second) = shiftBit first ^^^ shiftBit second := by
  have hSwap (a b c d : UInt32) : (a ^^^ b) ^^^ (c ^^^ d) = (a ^^^ c) ^^^ (b ^^^ d) := by ac_rfl
  rw [shiftBit_eq, shiftBit_eq first, shiftBit_eq second, isOdd_xor, UInt32.shiftRight_xor, hSwap]
  cases isOdd first <;> cases isOdd second <;> simp

theorem toNat_shiftRight_one (register : UInt32) : (register >>> 1).toNat = register.toNat / 2 := by
  rw [UInt32.toNat_shiftRight]
  exact Nat.shiftRight_eq_div_pow _ 1

-- The first bit of the divisor is set and that of a shifted register is not, so they never cancel.
theorem eq_zero_of_shiftBit {register : UInt32} (h : shiftBit register = 0) : register = 0 := by
  have hWord := register.toNat_lt
  rw [shiftBit_eq, UInt32.xor_eq_zero_iff] at h
  have hHalf := congrArg UInt32.toNat h
  rw [toNat_shiftRight_one, isOdd, Nat.testBit_zero] at hHalf
  refine UInt32.toNat_inj.mp ?_
  by_cases hOdd : register.toNat % 2 = 1
  · simp [hOdd] at hHalf
    omega
  · simp [hOdd] at hHalf
    rw [UInt32.toNat_zero]
    omega

theorem shiftBit_injective : Function.Injective shiftBit := by
  intro first second h
  refine UInt32.xor_eq_zero_iff.mp (eq_zero_of_shiftBit ?_)
  rw [shiftBit_xor, h, UInt32.xor_self]

theorem shiftBits_xor (count : Nat) (first second : UInt32) :
    shiftBit^[count] (first ^^^ second) = shiftBit^[count] first ^^^ shiftBit^[count] second := by
  have hLinear : Function.Semiconj₂ shiftBit (· ^^^ ·) (· ^^^ ·) := shiftBit_xor
  exact hLinear.iterate count first second

theorem two_pow_succ_mul (count number : Nat) :
    2 ^ (count + 1) * number = 2 * (2 ^ count * number) := by
  rw [Nat.pow_succ']
  exact Nat.mul_assoc ..

theorem shiftBits_ofNat (count number : Nat) (h : 2 ^ count * number < 2 ^ 32) :
    shiftBit^[count] (UInt32.ofNat (2 ^ count * number)) = UInt32.ofNat number := by
  induction count with
  | zero => rw [Nat.pow_zero, Nat.one_mul, Function.iterate_zero_apply]
  | succ count ih =>
    have hDouble := two_pow_succ_mul count number
    have hShift : shiftBit (UInt32.ofNat (2 ^ (count + 1) * number)) =
        UInt32.ofNat (2 ^ count * number) := by
      have hRest : 2 ^ count * number < 2 ^ 32 := by omega
      refine UInt32.toNat_inj.mp ?_
      have hEven : isOdd (UInt32.ofNat (2 ^ (count + 1) * number)) = false := by
        rw [isOdd, UInt32.toNat_ofNat_of_lt' h, Nat.testBit_zero, hDouble]
        simp
      rw [shiftBit_eq, hEven, if_neg (by decide), UInt32.xor_zero, toNat_shiftRight_one,
        UInt32.toNat_ofNat_of_lt' h, UInt32.toNat_ofNat_of_lt' hRest, hDouble]
      omega
    rw [Function.iterate_succ_apply, hShift, ih (by omega)]

theorem shiftByte_eq (register : UInt32) (byte : UInt8) :
    shiftByte register byte = shiftBit^[8] (register ^^^ byte.toUInt32) := rfl

theorem shiftByte_injective (byte : UInt8) :
    Function.Injective fun register => shiftByte register byte := by
  intro first second h
  exact (UInt32.xor_left_inj _).mp (shiftBit_injective.iterate 8 h)

theorem foldl_shiftByte_injective (bytes : List UInt8) :
    Function.Injective fun register => bytes.foldl shiftByte register := by
  induction bytes with
  | nil => exact Function.injective_id
  | cons byte rest ih => exact ih.comp (shiftByte_injective byte)

theorem littleEndian_cons (byte : UInt8) (rest : List UInt8) :
    littleEndian (byte :: rest) = byte.toNat + 256 * littleEndian rest := rfl

theorem littleEndian_lt (bytes : List UInt8) : littleEndian bytes < 256 ^ bytes.length := by
  induction bytes with
  | nil => exact Nat.one_pos
  | cons byte rest ih =>
    have hByte := byte.toNat_lt
    rw [littleEndian_cons, List.length_cons, Nat.pow_succ]
    omega

theorem littleEndian_inj {first second : List UInt8} (hLength : first.length = second.length)
    (h : littleEndian first = littleEndian second) : first = second := by
  induction first generalizing second with
  | nil => exact (List.eq_nil_of_length_eq_zero hLength.symm).symm
  | cons byte rest ih =>
    cases second with
    | nil => cases hLength
    | cons other more =>
      have hByte := byte.toNat_lt
      have hOther := other.toNat_lt
      rw [littleEndian_cons, littleEndian_cons] at h
      have hSame : byte = other := UInt8.toNat_inj.mp (by omega)
      rw [hSame, ih (Nat.succ.inj hLength) (by omega)]

theorem xor_two_pow_mul {count low : Nat} (hLow : low < 2 ^ count) (high : Nat) :
    low ^^^ (2 ^ count * high) = low + 2 ^ count * high := by
  rw [Nat.add_comm]
  refine Nat.eq_of_testBit_eq fun i => ?_
  rw [Nat.testBit_xor, Nat.testBit_two_pow_mul, Nat.testBit_two_pow_mul_add _ hLow]
  by_cases hIndex : i < count
  · simp [hIndex, Nat.not_le.mpr hIndex]
  · have hZero : low.testBit i = false :=
      Nat.testBit_lt_two_pow (Nat.lt_of_lt_of_le hLow
        (Nat.pow_le_pow_right Nat.two_pos (Nat.le_of_not_lt hIndex)))
    simp [hIndex, Nat.le_of_not_lt hIndex, hZero]

theorem foldl_shiftByte_eq (register : UInt32) {bytes : List UInt8} (hLength : bytes.length ≤ 4) :
    bytes.foldl shiftByte register =
      shiftBit^[8 * bytes.length] (register ^^^ UInt32.ofNat (littleEndian bytes)) := by
  induction bytes generalizing register with
  | nil => exact (UInt32.xor_zero).symm
  | cons byte rest ih =>
    rw [List.length_cons] at hLength
    have hRest : 2 ^ 8 * littleEndian rest < 2 ^ 32 := by
      have hBound := littleEndian_lt rest
      have hPower : 256 ^ rest.length ≤ 256 ^ 3 := Nat.pow_le_pow_right (by decide) (by omega)
      omega
    have hWord : UInt32.ofNat (littleEndian (byte :: rest)) =
        byte.toUInt32 ^^^ UInt32.ofNat (2 ^ 8 * littleEndian rest) := by
      have hSum := xor_two_pow_mul byte.toNat_lt (littleEndian rest)
      have hByte := byte.toNat_lt
      have hWhole : byte.toNat + 256 * littleEndian rest < 2 ^ 32 := by omega
      refine UInt32.toNat_inj.mp ?_
      rw [UInt32.toNat_xor, UInt8.toNat_toUInt32, UInt32.toNat_ofNat_of_lt' hRest, hSum,
        littleEndian_cons, UInt32.toNat_ofNat_of_lt' hWhole]
      omega
    calc rest.foldl shiftByte (shiftByte register byte)
      _ = shiftBit^[8 * rest.length]
            (shiftBit^[8] (register ^^^ byte.toUInt32) ^^^
              shiftBit^[8] (UInt32.ofNat (2 ^ 8 * littleEndian rest))) := by
          rw [ih _ (by omega), shiftByte_eq, shiftBits_ofNat 8 _ hRest]
      _ = shiftBit^[8 * rest.length]
            (shiftBit^[8] (register ^^^ UInt32.ofNat (littleEndian (byte :: rest)))) := by
          rw [← shiftBits_xor, UInt32.xor_assoc, ← hWord]
      _ = shiftBit^[8 * (byte :: rest).length]
            (register ^^^ UInt32.ofNat (littleEndian (byte :: rest))) := by
          rw [← Function.iterate_add_apply, List.length_cons, Nat.mul_succ]

theorem toNat_word {bytes : List UInt8} (hLength : bytes.length ≤ 4) :
    (UInt32.ofNat (littleEndian bytes)).toNat = littleEndian bytes :=
  UInt32.toNat_ofNat_of_lt' (Nat.lt_of_lt_of_le (littleEndian_lt bytes)
    (Nat.pow_le_pow_right (by decide) hLength))

theorem eq_of_foldl_shiftByte {register : UInt32} {first second : List UInt8}
    (hLength : first.length = second.length) (hShort : first.length ≤ 4)
    (h : first.foldl shiftByte register = second.foldl shiftByte register) : first = second := by
  rw [foldl_shiftByte_eq register hShort, foldl_shiftByte_eq register (hLength ▸ hShort),
    ← hLength] at h
  have hWords := (UInt32.xor_right_inj register).mp (shiftBit_injective.iterate _ h)
  have hNumbers := congrArg UInt32.toNat hWords
  rw [toNat_word hShort, toNat_word (hLength ▸ hShort)] at hNumbers
  exact littleEndian_inj hLength hNumbers

/-- The register behind any content that its checksum follows. -/
def residue : UInt32 := 0xDEBB20E3

theorem shiftBits_residue : shiftBit^[32] 0xFFFFFFFF = residue := by decide +kernel

/-- The register behind content and four bytes more tells whether these are its checksum. -/
theorem eq_wordBytes_checksum_iff (content : List UInt8) {last : List UInt8}
    (hLast : last.length = 4) :
    last = wordBytes (checksum content) ↔
      (content ++ last).foldl shiftByte 0xFFFFFFFF = residue := by
  rw [wordBytes_eq_iff _ _ hLast, ← toNat_word (Nat.le_of_eq hLast), UInt32.toNat_inj,
    List.foldl_append, foldl_shiftByte_eq _ (Nat.le_of_eq hLast), hLast, ← shiftBits_residue,
    (shiftBit_injective.iterate 32).eq_iff, checksum]
  generalize content.foldl shiftByte 0xFFFFFFFF = register
  have hOnes : (0xFFFFFFFF : UInt32) = -1 := rfl
  rw [hOnes, ← UInt32.xor_neg_one, ← UInt32.xor_right_inj register, ← UInt32.xor_assoc,
    UInt32.xor_self, UInt32.zero_xor, eq_comm]

-- The digits from 1 to 9 and the check value of this checksum.
example : [0x26, 0x39, 0xF4, 0xCB] =
    wordBytes (checksum [0x31, 0x32, 0x33, 0x34, 0x35, 0x36, 0x37, 0x38, 0x39]) := by
  decide +kernel

end DeviceRig.Frame
