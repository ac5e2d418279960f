import DeviceRig.Proofs.Frame.Checksum
import Mathlib.Algebra.CharP.Two
import Mathlib.Algebra.Field.ZMod
import Mathlib.Algebra.Polynomial.Div
import Mathlib.RingTheory.AdjoinRoot

/-!
# The checksum as a remainder

Bits are the coefficients of a polynomial over the field of two elements, the
first bit that of the highest power. Shifting a bit out of the register
multiplies its polynomial by the variable, up to the generator. So the register
behind some content is a remainder, and the checksum is its complement.
-/
namespace DeviceRig.Frame

open Polynomial

noncomputable def generator : (ZMod 2)[X] :=
  X ^ 32 + (X ^ 26 + X ^ 23 + X ^ 22 + X ^ 16 + X ^ 12 + X ^ 11 + X ^ 10 + X ^ 8 + X ^ 7 + X ^ 5 +
    X ^ 4 + X ^ 2 + X + 1)

/-- The first bits of a number, the lowest one with the highest power. -/
noncomputable def bitPolynomial : Nat → Nat → (ZMod 2)[X]
  | 0, _ => 0
  | count + 1, number =>
    (if number.testBit 0 then X ^ count else 0) + bitPolynomial count (number / 2)

noncomputable def bytesPolynomial (bytes : List UInt8) : (ZMod 2)[X] :=
  bitPolynomial (8 * bytes.length) (littleEndian bytes)

noncomputable def wordPolynomial (word : UInt32) : (ZMod 2)[X] :=
  bitPolynomial 32 word.toNat

/-- Whether a word is the IEEE checksum of some content: the complement of the remainder that the
generator leaves of the content with 32 zero bits behind it and its first 32 bits inverted. -/
def IsChecksum (content : List UInt8) (word : UInt32) : Prop :=
  wordPolynomial (~~~word) =
    (X ^ (8 * content.length) * wordPolynomial 0xFFFFFFFF + X ^ 32 * bytesPolynomial content) %ₘ
      generator

theorem bitPolynomial_zero (count : Nat) : bitPolynomial count 0 = 0 := by
  induction count with
  | zero => rfl
  | succ count ih => simpa [bitPolynomial] using ih

theorem bitPolynomial_xor (count first second : Nat) :
    bitPolynomial count (first ^^^ second) =
      bitPolynomial count first + bitPolynomial count second := by
  induction count generalizing first second with
  | zero => exact (add_zero 0).symm
  | succ count ih =>
    have hTwice : (X ^ count + X ^ count : (ZMod 2)[X]) = 0 := CharTwo.add_self_eq_zero _
    rw [bitPolynomial, bitPolynomial, bitPolynomial, Nat.xor_div_two, ih, add_add_add_comm,
      Nat.testBit_xor]
    congr 1
    cases first.testBit 0 <;> cases second.testBit 0 <;> simp [hTwice]

theorem bitPolynomial_append {count low : Nat} (hLow : low < 2 ^ count) (more high : Nat) :
    bitPolynomial (count + more) (low + 2 ^ count * high) =
      X ^ more * bitPolynomial count low + bitPolynomial more high := by
  induction count generalizing low with
  | zero =>
    rw [Nat.lt_one_iff.mp hLow, bitPolynomial]
    simp
  | succ count ih =>
    have hDouble := two_pow_succ_mul count high
    have hBit : (low + 2 ^ (count + 1) * high).testBit 0 = low.testBit 0 := by
      rw [Nat.testBit_zero, Nat.testBit_zero, hDouble, Nat.add_mul_mod_self_left]
    have hHalf : (low + 2 ^ (count + 1) * high) / 2 = low / 2 + 2 ^ count * high := by omega
    have hPower : (X ^ (count + more) : (ZMod 2)[X]) = X ^ more * X ^ count := by
      rw [add_comm, pow_add]
    rw [Nat.succ_add, bitPolynomial, bitPolynomial, hBit, hHalf, ih (by omega), hPower, mul_add,
      add_assoc, mul_ite, mul_zero]

theorem bitPolynomial_pad {count number : Nat} (h : number < 2 ^ count) (more : Nat) :
    bitPolynomial (count + more) number = X ^ more * bitPolynomial count number := by
  have hAppend := bitPolynomial_append h more 0
  rwa [Nat.mul_zero, Nat.add_zero, bitPolynomial_zero, add_zero] at hAppend

theorem coeff_bitPolynomial_of_le {count power : Nat} (h : count ≤ power) (number : Nat) :
    (bitPolynomial count number).coeff power = 0 := by
  induction count generalizing number with
  | zero => rfl
  | succ count ih =>
    have hOther : power ≠ count := by omega
    rw [bitPolynomial, coeff_add, ih (by omega), add_zero]
    cases number.testBit 0 <;> simp [coeff_X_pow, hOther]

theorem degree_bitPolynomial_lt (count number : Nat) :
    (bitPolynomial count number).degree < count :=
  (degree_lt_iff_coeff_zero _ _).mpr fun _ h => coeff_bitPolynomial_of_le h number

theorem bitPolynomial_inj {count first second : Nat} (hFirst : first < 2 ^ count)
    (hSecond : second < 2 ^ count) (h : bitPolynomial count first = bitPolynomial count second) :
    first = second := by
  induction count generalizing first second with
  | zero => omega
  | succ count ih =>
    rw [bitPolynomial, bitPolynomial] at h
    have hTop := congrArg (coeff · count) h
    simp only [coeff_add, coeff_bitPolynomial_of_le (Nat.le_refl count), add_zero] at hTop
    have hBit : first.testBit 0 = second.testBit 0 := by
      cases hOne : first.testBit 0 <;> cases hOther : second.testBit 0 <;>
        simp [hOne, hOther] at hTop ⊢
    rw [hBit, add_right_inj] at h
    have hHalf := ih (by omega) (by omega) h
    rw [Nat.testBit_zero, Nat.testBit_zero, decide_eq_decide] at hBit
    omega

theorem wordPolynomial_injective : Function.Injective wordPolynomial := by
  intro first second h
  exact UInt32.toNat_inj.mp (bitPolynomial_inj first.toNat_lt second.toNat_lt h)

theorem wordPolynomial_xor (first second : UInt32) :
    wordPolynomial (first ^^^ second) = wordPolynomial first + wordPolynomial second := by
  rw [wordPolynomial, UInt32.toNat_xor]
  exact bitPolynomial_xor 32 _ _

theorem generator_eq : generator = X ^ 32 + wordPolynomial 0xEDB88320 := by
  rw [generator, wordPolynomial, add_right_inj]
  simp [bitPolynomial, add_assoc]

theorem monic_generator : generator.Monic := by
  rw [generator_eq]
  exact monic_X_pow_add (degree_bitPolynomial_lt 32 _)

theorem degree_generator : generator.degree = 32 := by
  have hLow : (wordPolynomial 0xEDB88320).degree < (X ^ 32 : (ZMod 2)[X]).degree := by
    rw [degree_X_pow]
    exact degree_bitPolynomial_lt 32 _
  rw [generator_eq, degree_add_eq_left_of_degree_lt hLow, degree_X_pow]
  rfl

/-- Shifting a bit out of a register multiplies it by the variable, up to the generator. -/
theorem wordPolynomial_shiftBit (register : UInt32) :
    wordPolynomial (shiftBit register) =
      X * wordPolynomial register + if isOdd register then generator else 0 := by
  have hHalf : wordPolynomial (register >>> 1) = X * bitPolynomial 31 (register.toNat / 2) := by
    have hWord := register.toNat_lt
    have hPad := bitPolynomial_pad (show register.toNat / 2 < 2 ^ 31 by omega) 1
    rw [pow_one] at hPad
    rw [wordPolynomial, toNat_shiftRight_one]
    exact hPad
  have hWhole : wordPolynomial register =
      (if isOdd register then X ^ 31 else 0) + bitPolynomial 31 (register.toNat / 2) := rfl
  have hTwice : (X ^ 32 + X ^ 32 : (ZMod 2)[X]) = 0 := CharTwo.add_self_eq_zero _
  rw [shiftBit_eq, wordPolynomial_xor, hHalf, hWhole, generator_eq]
  cases isOdd register with
  | false => simp [wordPolynomial, bitPolynomial_zero]
  | true =>
    rw [if_pos rfl, if_pos rfl, if_pos rfl, mul_add, ← pow_succ', add_add_add_comm, hTwice,
      zero_add]

noncomputable abbrev modGenerator : (ZMod 2)[X] →+* AdjoinRoot generator :=
  AdjoinRoot.mk generator

theorem modGenerator_shiftBit (register : UInt32) :
    modGenerator (wordPolynomial (shiftBit register)) =
      modGenerator X * modGenerator (wordPolynomial register) := by
  rw [wordPolynomial_shiftBit, map_add, map_mul]
  cases isOdd register with
  | false => simp
  | true => rw [if_pos rfl, AdjoinRoot.mk_self, add_zero]

theorem modGenerator_shiftBits (count : Nat) (register : UInt32) :
    modGenerator (wordPolynomial (shiftBit^[count] register)) =
      modGenerator X ^ count * modGenerator (wordPolynomial register) := by
  induction count with
  | zero => simp
  | succ count ih =>
    rw [Function.iterate_succ_apply', modGenerator_shiftBit, ih, pow_succ', mul_assoc]

theorem wordPolynomial_toUInt32 (byte : UInt8) :
    wordPolynomial byte.toUInt32 = X ^ 24 * bitPolynomial 8 byte.toNat := by
  rw [wordPolynomial, UInt8.toNat_toUInt32]
  exact bitPolynomial_pad byte.toNat_lt 24

theorem bytesPolynomial_cons (byte : UInt8) (more : List UInt8) :
    bytesPolynomial (byte :: more) =
      X ^ (8 * more.length) * bitPolynomial 8 byte.toNat + bytesPolynomial more := by
  have hAppend := bitPolynomial_append byte.toNat_lt (8 * more.length) (littleEndian more)
  rw [bytesPolynomial, bytesPolynomial, littleEndian_cons, List.length_cons, Nat.mul_succ,
    Nat.add_comm (8 * more.length)]
  exact hAppend

theorem modGenerator_shiftByte (register : UInt32) (byte : UInt8) :
    modGenerator (wordPolynomial (shiftByte register byte)) =
      modGenerator X ^ 8 * modGenerator (wordPolynomial register) +
        modGenerator X ^ 32 * modGenerator (bitPolynomial 8 byte.toNat) := by
  rw [shiftByte_eq, modGenerator_shiftBits, wordPolynomial_xor, wordPolynomial_toUInt32, map_add,
    map_mul, map_pow, mul_add, ← mul_assoc, ← pow_add]

theorem modGenerator_foldl_shiftByte (register : UInt32) (content : List UInt8) :
    modGenerator (wordPolynomial (content.foldl shiftByte register)) =
      modGenerator (X ^ (8 * content.length) * wordPolynomial register +
        X ^ 32 * bytesPolynomial content) := by
  induction content generalizing register with
  | nil => simp [bytesPolynomial, bitPolynomial]
  | cons byte more ih =>
    rw [List.foldl_cons, ih, List.length_cons, Nat.mul_succ, bytesPolynomial_cons]
    simp only [map_add, map_mul, map_pow, modGenerator_shiftByte]
    ring

theorem wordPolynomial_foldl (register : UInt32) (content : List UInt8) :
    wordPolynomial (content.foldl shiftByte register) =
      (X ^ (8 * content.length) * wordPolynomial register + X ^ 32 * bytesPolynomial content) %ₘ
        generator := by
  have hSmall : (wordPolynomial (content.foldl shiftByte register)).degree < generator.degree := by
    rw [degree_generator]
    exact degree_bitPolynomial_lt 32 _
  rw [← (modByMonic_eq_self_iff monic_generator).mpr hSmall]
  exact modByMonic_eq_of_dvd_sub monic_generator
    (AdjoinRoot.mk_eq_mk.mp (modGenerator_foldl_shiftByte register content))

theorem isChecksum_iff (content : List UInt8) (word : UInt32) :
    IsChecksum content word ↔ word = checksum content := by
  rw [IsChecksum, ← wordPolynomial_foldl, wordPolynomial_injective.eq_iff, checksum]
  constructor
  · intro h
    rw [← h, UInt32.not_not]
  · rintro rfl
    exact UInt32.not_not

theorem exists_checksum_encode (address : UInt8) (payload : List UInt8) :
    ∃ sum, (∀ word, IsChecksum (address :: payload) word ↔ word = sum) ∧
      encode address payload =
        flag :: (address :: payload ++ wordBytes sum).flatMap stuff ++ [flag] ∧
      littleEndian (wordBytes sum) = sum.toNat :=
  ⟨checksum (address :: payload), isChecksum_iff _, rfl,
    ((wordBytes_eq_iff _ _ (wordBytes_length _)).mp rfl).symm⟩

end DeviceRig.Frame
