import DeviceRig.Json.Printer
import DeviceRig.Proofs.Json.Reading
import DeviceRig.Proofs.Text.Utf8

/-!
# Printed integers

An integer of at most 64 bits is read back if what stands behind it does not go
on with the number.
-/
namespace DeviceRig.Json.Reader

def digitBytes (n : Nat) : List UInt8 :=
  Utf8.bytes n.repr

theorem utf8EncodeChar_digitChar {digit : Nat} (h : digit < 10) :
    String.utf8EncodeChar (Nat.digitChar digit) = [UInt8.ofNat (48 + digit)] := by
  have hAll : ∀ digit < 10, String.utf8EncodeChar (Nat.digitChar digit) =
      [UInt8.ofNat (48 + digit)] := by decide
  exact hAll digit h

theorem isDigit_digit {digit : Nat} (h : digit < 10) :
    isDigit (UInt8.ofNat (48 + digit)) = true ∧ digitValue (UInt8.ofNat (48 + digit)) = digit ∧
      (UInt8.ofNat (48 + digit) = 48 → digit = 0) := by
  have hAll : ∀ digit < 10, isDigit (UInt8.ofNat (48 + digit)) = true ∧
      digitValue (UInt8.ofNat (48 + digit)) = digit ∧
      (UInt8.ofNat (48 + digit) = 48 → digit = 0) := by decide
  exact hAll digit h

theorem digitBytes_of_lt {n : Nat} (h : n < 10) : digitBytes n = [UInt8.ofNat (48 + n)] := by
  rw [digitBytes, Utf8.bytes_eq, Nat.toList_repr, Nat.toDigits_of_lt_base h, List.flatMap_cons,
    List.flatMap_nil, List.append_nil, utf8EncodeChar_digitChar h]

theorem digitBytes_of_le {n : Nat} (h : 10 ≤ n) :
    digitBytes n = digitBytes (n / 10) ++ [UInt8.ofNat (48 + n % 10)] := by
  rw [digitBytes, Utf8.bytes_eq, Nat.toList_repr, Nat.toDigits_of_base_le (by decide) h,
    List.flatMap_append, List.flatMap_cons, List.flatMap_nil, List.append_nil,
    utf8EncodeChar_digitChar (Nat.mod_lt n (by decide)), digitBytes, Utf8.bytes_eq,
    Nat.toList_repr]

theorem digitBytes_spec (n : Nat) :
    ∃ first more, digitBytes n = first :: more ∧ (∀ byte ∈ first :: more, isDigit byte = true) ∧
      (first = 48 → n = 0 ∧ more = []) ∧ natOf (digitValue first) more = n := by
  induction n using Nat.strongRecOn with
  | _ n ih =>
    by_cases hSmall : n < 10
    · obtain ⟨hDigit, hValue, hZero⟩ := isDigit_digit hSmall
      refine ⟨_, [], digitBytes_of_lt hSmall, ?_, fun h => ⟨hZero h, rfl⟩, hValue⟩
      intro byte hByte
      rw [List.mem_singleton.mp hByte]
      exact hDigit
    · obtain ⟨first, more, hBytes, hDigits, hZero, hValue⟩ := ih (n / 10) (by omega)
      obtain ⟨hDigit, hLast, -⟩ := isDigit_digit (Nat.mod_lt n (show 0 < 10 by decide))
      refine ⟨first, more ++ [UInt8.ofNat (48 + n % 10)], ?_, ?_, fun h => ?_, ?_⟩
      · rw [digitBytes_of_le (by omega), hBytes]
        rfl
      · intro byte hByte
        rw [← List.cons_append, List.mem_append, List.mem_singleton] at hByte
        rcases hByte with hByte | rfl
        · exact hDigits byte hByte
        · exact hDigit
      · obtain ⟨hTenth, -⟩ := hZero h
        omega
      · rw [natOf, List.foldl_append]
        change natOf (digitValue first) more * 10 + digitValue _ = n
        rw [hValue, hLast]
        omega

/-- Whether what stands behind some digits does not go on with a number. -/
def EndsNumber (rest : List UInt8) : Prop :=
  ∀ byte, rest.head? = some byte →
    isDigit byte = false ∧ byte ≠ 46 ∧ byte ≠ 101 ∧ byte ≠ 69

theorem takeWhile_isDigit {found rest : List UInt8} (hFound : ∀ byte ∈ found, isDigit byte = true)
    (hRest : EndsNumber rest) : (found ++ rest).takeWhile isDigit = found := by
  rw [List.takeWhile_append_of_pos hFound]
  cases rest with
  | nil => exact List.append_nil found
  | cons byte rest =>
    obtain ⟨hDigit, -⟩ := hRest byte rfl
    rw [List.takeWhile_cons_of_neg (Bool.eq_false_iff.mp hDigit), List.append_nil]

theorem dropWhile_isDigit {found rest : List UInt8} (hFound : ∀ byte ∈ found, isDigit byte = true)
    (hRest : EndsNumber rest) : (found ++ rest).dropWhile isDigit = rest := by
  rw [List.dropWhile_append_of_pos hFound]
  cases rest with
  | nil => rfl
  | cons byte rest =>
    obtain ⟨hDigit, -⟩ := hRest byte rfl
    rw [List.dropWhile_cons_of_neg (Bool.eq_false_iff.mp hDigit)]

theorem reads_digits {found rest : List UInt8} (hFound : ∀ byte ∈ found, isDigit byte = true)
    (hRest : EndsNumber rest) : Reads digits (found ++ rest) found rest := by
  refine reads_get fun peeked => ?_
  dsimp only
  rw [takeWhile_isDigit hFound hRest]
  have hPeek : Reads (peek >>= fun _ => pure found) rest found rest :=
    (reads_peek rest).bind (reads_pure found rest)
  cases found with
  | nil => exact hPeek
  | cons byte found =>
    have hSkip : Reads (modify fun cursor : Cursor => ⟨cursor.rest.dropWhile isDigit, false⟩)
        (byte :: found ++ rest) () rest := by
      intro looked
      refine ⟨false, ?_⟩
      change (Except.ok (), Cursor.mk ((byte :: found ++ rest).dropWhile isDigit) false) = _
      rw [dropWhile_isDigit hFound hRest]
    exact hSkip.bind hPeek

theorem le_natOf (value : Nat) (found : List UInt8) : value ≤ natOf value found := by
  induction found generalizing value with
  | nil => exact Nat.le_refl value
  | cons byte found ih =>
    refine Nat.le_trans ?_ (ih (value * 10 + digitValue byte))
    omega

theorem lengthWithin_of_le {limit value : Nat} {found : List UInt8}
    (h : natOf value found ≤ limit) : lengthWithin limit value found = found.length := by
  induction found generalizing value with
  | nil => rfl
  | cons byte found ih =>
    have hNext : value * 10 + digitValue byte ≤ limit := Nat.le_trans (le_natOf _ found) h
    rw [lengthWithin, if_neg (Nat.not_lt.mpr hNext), ih h, List.length_cons]

theorem withWhole_of_le {value : Nat} {found : List UInt8}
    (h : natOf value found ≤ maxSignificand) : withWhole value found = ⟨natOf value found, 0⟩ := by
  unfold withWhole
  rw [lengthWithin_of_le h]
  dsimp only
  rw [List.take_length, Int.sub_self]

theorem reads_whole {n : Nat} (hFits : n ≤ maxSignificand) {rest : List UInt8}
    (hRest : EndsNumber rest) : Reads whole (digitBytes n ++ rest) ⟨n, 0⟩ rest := by
  obtain ⟨first, more, hBytes, hDigits, hZero, hValue⟩ := digitBytes_spec n
  rw [hBytes]
  refine (reads_next first (more ++ rest)).bind ?_
  dsimp only
  split
  · rename_i hFirst
    obtain ⟨rfl, rfl⟩ := hZero hFirst
    refine (reads_peek rest).bind ?_
    cases hHead : rest.head? with
    | none => exact reads_pure _ rest
    | some byte =>
      obtain ⟨hDigit, -⟩ := hRest byte hHead
      dsimp only
      rw [if_neg (Bool.eq_false_iff.mp hDigit)]
      exact reads_pure _ rest
  · rw [if_pos (hDigits first List.mem_cons_self)]
    have hMore : ∀ byte ∈ more, isDigit byte = true := fun byte hByte =>
      hDigits byte (List.mem_cons_of_mem first hByte)
    refine (reads_digits hMore hRest).bind ?_
    rw [withWhole_of_le (hValue.trans_le hFits), hValue]
    exact reads_pure _ rest

theorem reads_fraction {rest : List UInt8} (hRest : EndsNumber rest) :
    Reads fraction rest [] rest := by
  refine (reads_peek rest).bind ?_
  cases hHead : rest.head? with
  | none => exact reads_pure [] rest
  | some byte =>
    obtain ⟨-, hPoint, -⟩ := hRest byte hHead
    split
    · rename_i hSame
      cases hSame
      exact absurd rfl hPoint
    · exact reads_pure [] rest

theorem reads_exponent (significand : Nat) {rest : List UInt8} (hRest : EndsNumber rest) :
    Reads (exponent significand) rest none rest := by
  refine (reads_peek rest).bind ?_
  cases hHead : rest.head? with
  | none => exact reads_pure none rest
  | some byte =>
    obtain ⟨-, -, hSmall, hLarge⟩ := hRest byte hHead
    have hMark : ¬(decide (byte = 101) || decide (byte = 69)) = true := by
      simp [hSmall, hLarge]
    dsimp only
    rw [if_neg hMark]
    exact reads_pure none rest

theorem le_maxSignificand {negative : Bool} {n : Nat}
    (hFits : fitsInteger (if negative then -(n : Int) else n) = true) : n ≤ maxSignificand := by
  rw [fitsInteger, Bool.and_eq_true, decide_eq_true_iff, decide_eq_true_iff] at hFits
  rw [maxSignificand]
  cases negative with
  | false =>
    rw [if_neg (by decide)] at hFits
    omega
  | true =>
    rw [if_pos rfl] at hFits
    omega

theorem reads_unsigned (negative : Bool) (n : Nat) {rest : List UInt8} (hRest : EndsNumber rest)
    (hFits : fitsInteger (if negative then -(n : Int) else n) = true)
    (hSign : negative = true → n ≠ 0) :
    Reads (unsigned negative) (digitBytes n ++ rest)
      (.integer (if negative then -(n : Int) else n)) rest := by
  refine (reads_whole (le_maxSignificand hFits) hRest).bind
    ((reads_fraction hRest).bind ((reads_exponent _ hRest).bind ?_))
  have hInteger : (!(negative && decide (n = 0))) = true := by
    cases negative with
    | false => rfl
    | true => simpa using hSign rfl
  dsimp only
  rw [if_pos ⟨rfl, rfl, rfl, hFits, hInteger⟩]
  exact reads_pure _ rest

def integerBytes (value : Int) : List UInt8 :=
  Utf8.bytes (toString value)

theorem integerBytes_neg {n : Nat} (h : n ≠ 0) : integerBytes (-n) = 45 :: digitBytes n := by
  obtain ⟨m, rfl⟩ := Nat.exists_eq_succ_of_ne_zero h
  have hText : toString (-((m + 1 : Nat) : Int)) = "-" ++ (m + 1).repr := rfl
  have hSign : Utf8.bytes "-" = [45] := Utf8.bytes_of_toList rfl
  rw [integerBytes, hText, Utf8.bytes_append, hSign]
  rfl

theorem reads_number_natCast (n : Nat) (hFits : fitsInteger n = true) {rest : List UInt8}
    (hRest : EndsNumber rest) {first : UInt8} (hFirst : isDigit first = true) :
    Reads (number first) (digitBytes n ++ rest) (.integer n) rest := by
  have hSign : first ≠ 45 := by
    rintro rfl
    cases hFirst
  rw [number, if_neg hSign]
  exact reads_unsigned false n hRest hFits (by simp)

theorem reads_number_neg {n : Nat} (hZero : n ≠ 0) (hFits : fitsInteger (-n) = true)
    {rest : List UInt8} (hRest : EndsNumber rest) :
    Reads (number 45) (45 :: digitBytes n ++ rest) (.integer (-n)) rest := by
  rw [number, if_pos rfl]
  exact (reads_advance 45 (digitBytes n ++ rest)).bind
    (reads_unsigned true n hRest hFits fun _ => hZero)

theorem reads_integer (value : Int) (hFits : fitsInteger value = true) :
    ∃ first more, integerBytes value = first :: more ∧ (first = 45 ∨ isDigit first = true) ∧
      ∀ rest, EndsNumber rest →
        Reads (number first) (integerBytes value ++ rest) (.integer value) rest := by
  obtain ⟨n, rfl | rfl⟩ := value.eq_nat_or_neg
  · obtain ⟨first, more, hBytes, hDigits, -, -⟩ := digitBytes_spec n
    have hFirst := hDigits first List.mem_cons_self
    exact ⟨first, more, hBytes, .inr hFirst, fun rest hRest =>
      reads_number_natCast n hFits hRest hFirst⟩
  · by_cases hZero : n = 0
    · subst hZero
      refine ⟨48, [], digitBytes_of_lt (by decide), .inr rfl, fun rest hRest => ?_⟩
      exact reads_number_natCast 0 hFits hRest rfl
    · refine ⟨45, digitBytes n, integerBytes_neg hZero, .inl rfl, fun rest hRest => ?_⟩
      rw [integerBytes_neg hZero]
      exact reads_number_neg hZero hFits hRest

end DeviceRig.Json.Reader
