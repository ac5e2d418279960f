import DeviceRig.Text.Natural
import Mathlib.Data.List.Basic
import Mathlib.Data.List.Induction

/-!
# Decimal numerals

Which texts are read as a natural number, and which of them printing gives. A
number has many numerals, with a plus sign and with zeros before it, and just
one that is plain.
-/
namespace DeviceRig.Text

/-- Digits for a number within a limit, with at most one plus sign before them. -/
def IsNumeral (limit : Nat) (text : List Char) (n : Nat) : Prop :=
  ∃ digits, (text = digits ∨ text = '+' :: digits) ∧ digits ≠ [] ∧
    (∀ c ∈ digits, c.isDigit = true) ∧ Nat.ofDigitChars 10 digits 0 = n ∧ n ≤ limit

/-- No plus sign, and no zero before other digits. -/
def IsPlain (text : List Char) : Prop :=
  text.head? ≠ some '+' ∧ (text.head? = some '0' → text = ['0'])

section Reading

variable {limit value n : Nat} {digits text : List Char}

theorem le_ofDigitChars (digits : List Char) (value : Nat) :
    value ≤ Nat.ofDigitChars 10 digits value := by
  rw [Nat.ofDigitChars_eq_ofDigitChars_zero]
  have hPower := Nat.one_le_pow digits.length 10 (by omega)
  have hValue := Nat.mul_le_mul_right value hPower
  omega

theorem digitsBehind_eq_ok_iff (hValue : value ≤ limit) :
    digitsBehind limit value digits = .ok n ↔
      (∀ c ∈ digits, c.isDigit = true) ∧ Nat.ofDigitChars 10 digits value = n ∧ n ≤ limit := by
  induction digits generalizing value with
  | nil =>
    simp only [digitsBehind, Except.ok.injEq, List.not_mem_nil, Nat.ofDigitChars_nil]
    constructor
    · rintro rfl
      exact ⟨nofun, rfl, hValue⟩
    · rintro ⟨-, hSame, -⟩
      exact hSame
  | cons c rest ih =>
    rw [digitsBehind, Nat.ofDigitChars_cons, Nat.mul_comm 10 value]
    cases hDigit : c.isDigit with
    | false => simp [hDigit]
    | true =>
      by_cases hLarge : limit < value * 10 + (c.toNat - '0'.toNat)
      · have hMore := le_ofDigitChars rest (value * 10 + (c.toNat - '0'.toNat))
        simp only [Bool.not_true, Bool.false_eq_true, if_false, if_pos hLarge, reduceCtorEq,
          false_iff]
        rintro ⟨-, rfl, hLimit⟩
        omega
      · simp only [Bool.not_true, Bool.false_eq_true, if_false, if_neg hLarge,
          ih (Nat.not_lt.mp hLarge), List.forall_mem_cons, hDigit, true_and]

theorem naturalChars_eq_ok_iff :
    naturalChars limit text = .ok n ↔ IsNumeral limit text n := by
  have hPlus : ∀ digits, ('+' :: digits : List Char) ≠ [] ∧
      ¬∀ c ∈ '+' :: digits, c.isDigit = true := by
    refine fun digits => ⟨List.cons_ne_nil _ _, fun hDigits => ?_⟩
    have hSign := hDigits '+' List.mem_cons_self
    revert hSign
    decide
  unfold naturalChars
  split
  · constructor
    · nofun
    · rintro ⟨digits, rfl | h, hSome, -⟩
      · exact absurd rfl hSome
      · cases h
  · constructor
    · nofun
    · rintro ⟨digits, rfl | h, hSome, hDigits, -⟩
      · exact absurd hDigits (hPlus []).2
      · cases h
        exact absurd rfl hSome
  · rename_i digits hSome
    rw [digitsBehind_eq_ok_iff (Nat.zero_le limit)]
    constructor
    · rintro ⟨hDigits, hValue⟩
      exact ⟨digits, .inr rfl, fun hNil => hSome (by rw [hNil]), hDigits, hValue⟩
    · rintro ⟨digits, rfl | h, -, hDigits, hValue⟩
      · exact absurd hDigits (hPlus _).2
      · cases h
        exact ⟨hDigits, hValue⟩
  · rename_i hEmpty hLone hSigned
    rw [digitsBehind_eq_ok_iff (Nat.zero_le limit)]
    constructor
    · rintro ⟨hDigits, hValue⟩
      exact ⟨text, .inl rfl, hEmpty, hDigits, hValue⟩
    · rintro ⟨digits, rfl | h, -, hDigits, hValue⟩
      · exact ⟨hDigits, hValue⟩
      · exact absurd h (hSigned digits)

end Reading

section Printing

variable {limit n : Nat} {digits text : List Char}

theorem digitChar_of_isDigit {c : Char} (h : c.isDigit = true) :
    c.toNat - '0'.toNat < 10 ∧ Nat.digitChar (c.toNat - '0'.toNat) = c := by
  have hAll : ∀ digit < 10, (Nat.digitChar digit).toNat = '0'.toNat + digit := by decide
  obtain ⟨hLow, hHigh⟩ := Char.isDigit_iff_toNat.mp h
  have hSmall : c.toNat - '0'.toNat < 10 := by
    have hWidth : '9'.toNat = '0'.toNat + 9 := rfl
    omega
  refine ⟨hSmall, Char.toNat_inj.mp ?_⟩
  rw [hAll _ hSmall]
  omega

theorem isNumeral_toDigits (h : n ≤ limit) : IsNumeral limit (Nat.toDigits 10 n) n :=
  ⟨_, .inl rfl, Nat.toDigits_ne_nil,
    fun _ => Nat.isDigit_of_mem_toDigits (by omega) (by omega),
    Nat.ofDigitChars_toDigits (by omega) (by omega), h⟩

theorem isPlain_toDigits (n : Nat) : IsPlain (Nat.toDigits 10 n) := by
  constructor
  · intro hPlus
    have hDigit := Nat.isDigit_of_mem_toDigits (by omega) (by omega) (List.mem_of_mem_head? hPlus)
    revert hDigit
    decide
  · induction n using Nat.strongRecOn with
    | ind n ih =>
      intro hZero
      by_cases hSmall : n < 10
      · rw [Nat.toDigits_of_lt_base hSmall] at hZero ⊢
        simpa using hZero
      · rw [Nat.toDigits_of_base_le (by omega) (by omega), List.head?_append_of_ne_nil _
          Nat.toDigits_ne_nil] at hZero
        have hValue := congrArg (Nat.ofDigitChars 10 · 0) (ih (n / 10) (by omega) hZero)
        rw [Nat.ofDigitChars_toDigits (by omega) (by omega)] at hValue
        have hTenth : n / 10 = 0 := hValue
        omega

theorem toDigits_ofDigitChars (hDigits : ∀ c ∈ digits, c.isDigit = true) (hSome : digits ≠ [])
    (hZero : digits.head? = some '0' → digits = ['0']) :
    Nat.toDigits 10 (Nat.ofDigitChars 10 digits 0) = digits := by
  induction digits using List.reverseRecOn with
  | nil => exact absurd rfl hSome
  | append_singleton front c ih =>
    obtain ⟨hLast, hChar⟩ := digitChar_of_isDigit (hDigits c (by simp))
    rw [Nat.ofDigitChars_append, Nat.ofDigitChars_cons, Nat.ofDigitChars_nil]
    cases front with
    | nil =>
      rw [Nat.ofDigitChars_nil, Nat.mul_zero, Nat.zero_add, Nat.toDigits_of_lt_base hLast, hChar]
      rfl
    | cons first more =>
      have hFirst : first ≠ '0' := by
        rintro rfl
        simpa using hZero rfl
      have hFront := ih (fun d hd => hDigits d (List.mem_append_left _ hd)) (List.cons_ne_nil _ _)
        fun h => absurd (Option.some.inj h) hFirst
      have hPositive : 0 < Nat.ofDigitChars 10 (first :: more) 0 := by
        refine Nat.pos_of_ne_zero fun hNone => hFirst ?_
        rw [hNone] at hFront
        exact (List.cons.inj hFront).1.symm
      rw [← Nat.toDigits_append_toDigits (by omega) hPositive hLast, hFront,
        Nat.toDigits_of_lt_base hLast, hChar]

theorem IsNumeral.isPlain_iff (h : IsNumeral limit text n) :
    IsPlain text ↔ text = Nat.toDigits 10 n := by
  constructor
  · rintro ⟨hPlus, hZero⟩
    obtain ⟨digits, rfl | rfl, hSome, hDigits, rfl, -⟩ := h
    · exact (toDigits_ofDigitChars hDigits hSome hZero).symm
    · exact absurd rfl hPlus
  · rintro rfl
    exact isPlain_toDigits n

end Printing

end DeviceRig.Text
