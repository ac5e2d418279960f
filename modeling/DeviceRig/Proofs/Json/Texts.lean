import DeviceRig.Json.Printer
import DeviceRig.Proofs.Json.Reading
import DeviceRig.Proofs.Text.Utf8

/-!
# Printed texts

A printed text is read back: an escape stands for the character that was
escaped, and the bytes of every other character stand for themselves.
-/
namespace DeviceRig.Json

theorem textBytes_more {before : Array UInt8} {byte : UInt8} {tail found rest : List UInt8}
    (h : textStep byte tail = .more found rest) :
    textBytes before (byte :: tail) = textBytes (before ++ found) rest := by
  rw [textBytes]
  split <;> rename_i hStep <;> rw [h] at hStep <;> cases hStep
  rfl

theorem textBytes_done (before : Array UInt8) (rest : List UInt8) :
    textBytes before (34 :: rest) = (.ok before, rest) := by
  rw [textBytes]
  rfl

def isPlain (byte : UInt8) : Prop := byte ≠ 34 ∧ byte ≠ 92 ∧ ¬byte < 32

theorem textBytes_plain (before : Array UInt8) (plain rest : List UInt8)
    (hPlain : ∀ byte ∈ plain, isPlain byte) :
    textBytes before (plain ++ rest) = textBytes (before ++ plain) rest := by
  induction plain generalizing before with
  | nil => simp
  | cons byte plain ih =>
    obtain ⟨hQuote, hEscape, hControl⟩ := hPlain byte List.mem_cons_self
    have hStep : textStep byte (plain ++ rest) = .more [byte] (plain ++ rest) := by
      rw [textStep, if_neg hQuote, if_neg hEscape, if_neg hControl]
    rw [List.cons_append, textBytes_more hStep,
      ih _ fun other hOther => hPlain other (List.mem_cons_of_mem byte hOther)]
    simp

theorem isPlain_ofNat {n : Nat} (hSize : n < 256) (hControl : 32 ≤ n) (hQuote : n ≠ 34)
    (hEscape : n ≠ 92) : isPlain (UInt8.ofNat n) := by
  have hNat : (UInt8.ofNat n).toNat = n := by
    rw [UInt8.toNat_ofNat', Nat.mod_eq_of_lt hSize]
  refine ⟨fun h => hQuote ?_, fun h => hEscape ?_, fun h => ?_⟩
  · rw [← hNat, h]
    rfl
  · rw [← hNat, h]
    rfl
  · have := UInt8.lt_iff_toNat_lt.mp h
    rw [hNat] at this
    exact absurd this (Nat.not_lt.mpr hControl)

theorem isPlain_of_mem_utf8EncodeChar {c : Char} (hControl : 32 ≤ c.toNat) (hQuote : c.toNat ≠ 34)
    (hEscape : c.toNat ≠ 92) : ∀ byte ∈ String.utf8EncodeChar c, isPlain byte := by
  intro byte hByte
  change 32 ≤ c.val.toNat at hControl
  change c.val.toNat ≠ 34 at hQuote
  change c.val.toNat ≠ 92 at hEscape
  unfold String.utf8EncodeChar at hByte
  generalize c.val.toNat = n at *
  dsimp only at hByte
  split at hByte
  · obtain rfl := List.mem_singleton.mp hByte
    exact isPlain_ofNat (by omega) hControl hQuote hEscape
  · have hTail : ∀ k, isPlain (UInt8.ofNat (k % 64 + 128)) := fun k =>
      isPlain_ofNat (by omega) (by omega) (by omega) (by omega)
    split at hByte
    · simp only [List.mem_cons, List.not_mem_nil, or_false] at hByte
      rcases hByte with rfl | rfl
      · exact isPlain_ofNat (by omega) (by omega) (by omega) (by omega)
      · exact hTail _
    · split at hByte
      · simp only [List.mem_cons, List.not_mem_nil, or_false] at hByte
        rcases hByte with rfl | rfl | rfl
        · exact isPlain_ofNat (by omega) (by omega) (by omega) (by omega)
        · exact hTail _
        · exact hTail _
      · simp only [List.mem_cons, List.not_mem_nil, or_false] at hByte
        rcases hByte with rfl | rfl | rfl | rfl
        · exact isPlain_ofNat (by omega) (by omega) (by omega) (by omega)
        · exact hTail _
        · exact hTail _
        · exact hTail _

theorem utf8EncodeChar_hexDigit (n : Nat) :
    String.utf8EncodeChar (hexDigit n) = [UInt8.ofNat (hexDigit n).toNat] := by
  have hAll : ∀ digit < 16, String.utf8EncodeChar (Nat.digitChar digit) =
      [UInt8.ofNat (Nat.digitChar digit).toNat] := by decide
  exact hAll (n % 16) (Nat.mod_lt n (by decide))

theorem bytes_hexEscape (n : Nat) :
    Utf8.bytes ("\\u00" ++ String.ofList [hexDigit (n / 16), hexDigit n]) =
      [92, 117, 48, 48, UInt8.ofNat (hexDigit (n / 16)).toNat, UInt8.ofNat (hexDigit n).toNat] := by
  have hMark : Utf8.bytes "\\u00" = [92, 117, 48, 48] := Utf8.bytes_of_toList rfl
  rw [Utf8.bytes_append, hMark, Utf8.bytes_eq, String.toList_ofList, List.flatMap_cons,
    List.flatMap_cons, List.flatMap_nil, utf8EncodeChar_hexDigit, utf8EncodeChar_hexDigit]
  rfl

theorem bytes_toString (c : Char) : Utf8.bytes c.toString = String.utf8EncodeChar c := by
  rw [Utf8.bytes_eq]
  simp

theorem hexValue?_hexDigit (n : Nat) :
    hexValue? (UInt8.ofNat (hexDigit n).toNat) = some (n % 16) := by
  have hAll : ∀ digit < 16, hexValue? (UInt8.ofNat (Nat.digitChar digit).toNat) = some digit := by
    decide
  exact hAll (n % 16) (Nat.mod_lt n (by decide))

theorem escapeStep_control {n : Nat} (hControl : n < 32) (rest : List UInt8) :
    escapeStep (117 :: 48 :: 48 :: UInt8.ofNat (hexDigit (n / 16)).toNat ::
      UInt8.ofNat (hexDigit n).toNat :: rest) = .more (codePoint n) rest := by
  have hValue : ((0 * 16 + 0) * 16 + n / 16 % 16) * 16 + n % 16 = n := by omega
  have hDigits : fourDigits (48 :: 48 :: UInt8.ofNat (hexDigit (n / 16)).toNat ::
      UInt8.ofNat (hexDigit n).toNat :: rest) = (.ok n, rest) := by
    have hZero : hexValue? 48 = some 0 := rfl
    simp only [fourDigits, hexValue?_hexDigit, hZero, hValue]
  have hTrail : isTrailSurrogate n = false := by
    simp only [isTrailSurrogate, Bool.and_eq_false_iff, decide_eq_false_iff_not]
    omega
  have hLead : isLeadSurrogate n = false := by
    simp only [isLeadSurrogate, Bool.and_eq_false_iff, decide_eq_false_iff_not]
    omega
  simp [escapeStep, unicodeStep, hDigits, hTrail, hLead]

theorem textBytes_escapeChar (before : Array UInt8) (c : Char) (rest : List UInt8) :
    textBytes before (Utf8.bytes (escapeChar c) ++ rest) =
      textBytes (before ++ String.utf8EncodeChar c) rest := by
  unfold escapeChar
  split
  case h_8 hQuote hEscape _ _ _ _ _ =>
    split
    · rename_i hControl
      have hChar : codePoint c.toNat = String.utf8EncodeChar c := by
        rw [codePoint, Char.ofNat_toNat]
      rw [bytes_hexEscape, ← hChar]
      exact textBytes_more (escapeStep_control hControl rest)
    · rename_i hControl
      rw [bytes_toString]
      refine textBytes_plain before _ rest (isPlain_of_mem_utf8EncodeChar (by omega) ?_ ?_)
      · intro h
        exact hQuote (Char.toNat_inj.mp h)
      · intro h
        exact hEscape (Char.toNat_inj.mp h)
  -- The other characters have an escape of two letters.
  all_goals
    rw [Utf8.bytes_eq]
    exact textBytes_more rfl

theorem textBytes_escaped (before : Array UInt8) (chars : List Char) (rest : List UInt8) :
    textBytes before ((chars.map escapeChar).flatMap Utf8.bytes ++ 34 :: rest) =
      (.ok (before ++ chars.flatMap String.utf8EncodeChar), rest) := by
  induction chars generalizing before with
  | nil =>
    rw [List.map_nil, List.flatMap_nil, List.nil_append, textBytes_done]
    simp
  | cons c chars ih =>
    have hAppend : before ++ String.utf8EncodeChar c ++ chars.flatMap String.utf8EncodeChar =
        before ++ (c :: chars).flatMap String.utf8EncodeChar := by
      apply Array.ext'
      simp
    rw [List.map_cons, List.flatMap_cons, List.append_assoc, textBytes_escapeChar, ih, hAppend]

namespace Reader

def quotedBytes (value : String) : List UInt8 :=
  (value.toList.map escapeChar).flatMap Utf8.bytes ++ [34]

@[simp]
theorem bytes_printText (value : String) :
    Utf8.bytes (printText value) = 34 :: quotedBytes value := by
  have hQuote : Utf8.bytes "\"" = [34] := Utf8.bytes_of_toList rfl
  simp [printText, quotedBytes, hQuote]

theorem reads_text (value : String) (rest : List UInt8) :
    Reads text (quotedBytes value ++ rest) value rest := by
  intro peeked
  refine ⟨false, ?_⟩
  have hBytes : textBytes #[] (quotedBytes value ++ rest) =
      (.ok (Utf8.bytes value).toArray, rest) := by
    rw [quotedBytes, List.append_assoc, List.singleton_append, textBytes_escaped, Utf8.bytes_eq]
    simp
  simp only [text, hBytes, Utf8.text?_bytes]

end Reader

end DeviceRig.Json
