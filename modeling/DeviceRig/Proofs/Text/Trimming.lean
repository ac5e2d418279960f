import DeviceRig.Text.Blank
import Mathlib.Data.List.Basic

/-!
# Texts without blanks at their ends
-/
namespace DeviceRig.Text

structure IsTrimmed (text : List Char) : Prop where
  head : ∀ c, text.head? = some c → isBlank c = false
  last : ∀ c, text.getLast? = some c → isBlank c = false

variable {text : List Char}

theorem dropWhile_isBlank (h : ∀ c, text.head? = some c → isBlank c = false) :
    text.dropWhile isBlank = text := by
  cases text with
  | nil => rfl
  | cons c rest => rw [List.dropWhile_cons_of_neg (by simp [h c rfl])]

theorem IsTrimmed.trimChars_eq (h : IsTrimmed text) : trimChars text = text := by
  rw [trimChars, dropWhile_isBlank h.head, dropWhile_isBlank, List.reverse_reverse]
  intro c hc
  rw [List.head?_reverse] at hc
  exact h.last c hc

theorem isTrimmed_trimChars (text : List Char) : IsTrimmed (trimChars text) := by
  have hNot : ∀ (cs : List Char) (c : Char), (cs.dropWhile isBlank).head? = some c →
      isBlank c = false := by
    intro cs c hc
    have hHead := List.head?_dropWhile_not isBlank cs
    rwa [hc] at hHead
  constructor
  · intro c hc
    obtain ⟨rest, hRest⟩ := List.head?_eq_some_iff.mp hc
    have hSuffix : (text.dropWhile isBlank).reverse.dropWhile isBlank <:+
        (text.dropWhile isBlank).reverse := List.dropWhile_suffix isBlank
    obtain ⟨behind, hBehind⟩ := List.reverse_prefix.mpr hSuffix
    rw [List.reverse_reverse] at hBehind
    refine hNot text c ?_
    rw [← hBehind, ← trimChars, hRest]
    rfl
  · intro c hc
    rw [trimChars, List.getLast?_reverse] at hc
    exact hNot _ c hc

theorem isBlank_of_isDigit {c : Char} (h : c.isDigit = true) : isBlank c = false := by
  obtain ⟨hLow, hHigh⟩ := Char.isDigit_iff_toNat.mp h
  have hZero : '0'.toNat = 48 := rfl
  have hNine : '9'.toNat = 57 := rfl
  simp [isBlank]
  omega

end DeviceRig.Text
