import DeviceRig.Proofs.Json.Values

/-!
# Values on one line

The compact text of a value has no control characters, so it stands on one
line. Texts have theirs as escapes, and a number is made of digits and a few
signs.
-/
namespace DeviceRig.Json

def NoControl (bytes : List UInt8) : Prop :=
  ∀ byte ∈ bytes, 32 ≤ byte.toNat

instance (bytes : List UInt8) : Decidable (NoControl bytes) :=
  List.decidableBAll (fun byte : UInt8 => 32 ≤ byte.toNat) bytes

theorem NoControl.append {bytes more : List UInt8} (hBytes : NoControl bytes)
    (hMore : NoControl more) : NoControl (bytes ++ more) := by
  intro byte hByte
  rcases List.mem_append.mp hByte with hByte | hByte
  · exact hBytes byte hByte
  · exact hMore byte hByte

theorem NoControl.cons {byte : UInt8} {bytes : List UInt8} (hByte : 32 ≤ byte.toNat)
    (hBytes : NoControl bytes) : NoControl (byte :: bytes) :=
  List.forall_mem_cons.mpr ⟨hByte, hBytes⟩

theorem NoControl.flatMap {α : Type} {code : α → List UInt8} {list : List α}
    (h : ∀ item ∈ list, NoControl (code item)) : NoControl (list.flatMap code) := by
  intro byte hByte
  obtain ⟨item, hItem, hByte⟩ := List.mem_flatMap.mp hByte
  exact h item hItem byte hByte

def Printable (text : String) : Prop :=
  ∀ c ∈ text.toList, 32 ≤ c.toNat

instance (text : String) : Decidable (Printable text) :=
  List.decidableBAll (fun c : Char => 32 ≤ c.toNat) text.toList

theorem Printable.append {text more : String} (hText : Printable text) (hMore : Printable more) :
    Printable (text ++ more) := by
  intro c hChar
  rw [String.toList_append, List.mem_append] at hChar
  rcases hChar with hChar | hChar
  · exact hText c hChar
  · exact hMore c hChar

theorem printable_ofList {chars : List Char} (hChars : ∀ c ∈ chars, 32 ≤ c.toNat) :
    Printable (String.ofList chars) := by
  intro c hChar
  rw [String.toList_ofList] at hChar
  exact hChars c hChar

theorem noControl_utf8EncodeChar {c : Char} (hChar : 32 ≤ c.toNat) :
    NoControl (String.utf8EncodeChar c) := by
  by_cases hQuote : c.toNat = 34
  · obtain rfl : c = '"' := Char.toNat_inj.mp hQuote
    decide
  · by_cases hEscape : c.toNat = 92
    · obtain rfl : c = '\\' := Char.toNat_inj.mp hEscape
      decide
    · intro byte hByte
      have hPlain := isPlain_of_mem_utf8EncodeChar hChar hQuote hEscape byte hByte
      exact Nat.not_lt.mp fun hLess => hPlain.2.2 (UInt8.lt_iff_toNat_lt.mpr hLess)

theorem Printable.noControl {text : String} (hText : Printable text) :
    NoControl (Utf8.bytes text) := by
  rw [Utf8.bytes_eq]
  exact NoControl.flatMap fun c hChar => noControl_utf8EncodeChar (hText c hChar)

theorem le_hexDigit (n : Nat) : 32 ≤ (hexDigit n).toNat := by
  have hAll : ∀ digit < 16, 32 ≤ (Nat.digitChar digit).toNat := by decide
  exact hAll (n % 16) (Nat.mod_lt n (by decide))

theorem printable_escapeChar (c : Char) : Printable (escapeChar c) := by
  unfold escapeChar
  split
  case h_8 =>
    split
    · refine Printable.append (by decide) (printable_ofList ?_)
      simp only [List.mem_cons, List.not_mem_nil, or_false]
      rintro digit (rfl | rfl)
      · exact le_hexDigit _
      · exact le_hexDigit _
    · rename_i hControl
      refine printable_ofList fun other hOther => ?_
      rw [List.mem_singleton.mp hOther]
      exact Nat.not_lt.mp hControl
  all_goals decide

theorem noControl_quotedBytes (text : String) : NoControl (Reader.quotedBytes text) := by
  refine NoControl.append (NoControl.flatMap ?_) (.cons (by decide) (by decide))
  intro printed hPrinted
  obtain ⟨c, -, rfl⟩ := List.mem_map.mp hPrinted
  exact (printable_escapeChar c).noControl

theorem noControl_commaBytes {parts : List (List UInt8)} (h : ∀ part ∈ parts, NoControl part) :
    NoControl (commaBytes parts) := by
  cases parts with
  | nil => rintro byte ⟨⟩
  | cons first rest =>
    refine NoControl.append (h first List.mem_cons_self) (NoControl.flatMap ?_)
    exact fun part hPart => .cons (by decide) (h part (List.mem_cons_of_mem first hPart))

section Numbers

open Decimal

theorem le_of_isDigit {c : Char} (hDigit : c.isDigit = true) : 32 ≤ c.toNat := by
  simp only [Char.isDigit, Bool.and_eq_true, decide_eq_true_eq, ge_iff_le] at hDigit
  exact Nat.le_trans (show 32 ≤ 48 by decide) (UInt32.le_iff_toNat_le.mp hDigit.1)

theorem le_of_mem_toDigits {n : Nat} {c : Char} (hChar : c ∈ Nat.toDigits 10 n) : 32 ≤ c.toNat :=
  le_of_isDigit (Nat.isDigit_of_mem_toDigits (by decide) (by decide) hChar)

theorem printable_zeros (count : Nat) : Printable (zeros count) := by
  refine printable_ofList fun c hChar => ?_
  rw [(List.mem_replicate.mp hChar).2]
  decide

theorem printable_repr (n : Nat) : Printable n.repr := by
  intro c hChar
  rw [Nat.toList_repr] at hChar
  exact le_of_mem_toDigits hChar

theorem printable_toString (value : Int) : Printable (toString value) := by
  cases value with
  | ofNat n => exact printable_repr n
  | negSucc n => exact (show Printable "-" by decide).append (printable_repr _)

theorem printable_magnitude {layout : Layout} (hTail : Printable layout.wholeTail) (x : Digits) :
    Printable (layout.magnitude x) := by
  have hDigits : Printable (String.ofList (Nat.toDigits 10 x.digits)) :=
    printable_ofList fun c hChar => le_of_mem_toDigits hChar
  have hTake (n : Nat) : Printable (String.ofList ((Nat.toDigits 10 x.digits).take n)) :=
    printable_ofList fun c hChar => le_of_mem_toDigits (List.mem_of_mem_take hChar)
  have hDrop (n : Nat) : Printable (String.ofList ((Nat.toDigits 10 x.digits).drop n)) :=
    printable_ofList fun c hChar => le_of_mem_toDigits (List.mem_of_mem_drop hChar)
  unfold Layout.magnitude
  dsimp only
  split
  · exact (hDigits.append (printable_zeros _)).append hTail
  · split
    · exact ((hTake _).append (by decide)).append (hDrop _)
    · split
      · exact (Printable.append (by decide) (printable_zeros _)).append hDigits
      · refine ((((hTake _).append ?_).append (by decide)).append ?_).append (printable_toString _)
        · split
          · decide
          · exact Printable.append (by decide) (hDrop _)
        · split
          · decide
          · decide

theorem printable_layout {layout : Layout} (hTail : Printable layout.wholeTail) (x : Float) :
    Printable (layout.text x) := by
  unfold Layout.text
  dsimp only
  have hSign : Printable (if isNegative x.toBits then "-" else "") := by
    split
    · decide
    · decide
  split
  · split
    · exact hSign.append (by decide)
    · decide
  · split
    · exact (hSign.append (by decide)).append hTail
    · exact hSign.append (printable_magnitude hTail _)

end Numbers

theorem printable_number (number : Number) : Printable number.compact := by
  cases number with
  | integer value => exact printable_toString value
  | decimal value => exact printable_layout (by decide) value

mutual

theorem noControl_valueBytes : (value : Value) → NoControl (valueBytes value)
  | .null => (show Printable "null" by decide).noControl
  | .bool true => (show Printable "true" by decide).noControl
  | .bool false => (show Printable "false" by decide).noControl
  | .number number => (printable_number number).noControl
  | .text value => by
    rw [valueBytes_text]
    exact .cons (by decide) (noControl_quotedBytes value)
  | .list items => by
    rw [valueBytes_list]
    refine (NoControl.cons (by decide) (noControl_commaBytes ?_)).append
      (.cons (by decide) (by decide))
    intro part hPart
    obtain ⟨item, hItem, rfl⟩ := List.mem_map.mp hPart
    exact noControl_items items item hItem
  | .object members => by
    rw [valueBytes_object]
    refine (NoControl.cons (by decide) (noControl_commaBytes ?_)).append
      (.cons (by decide) (by decide))
    intro part hPart
    obtain ⟨member, hMember, rfl⟩ := List.mem_map.mp hPart
    refine NoControl.append (.cons (by decide) (noControl_quotedBytes member.1)) ?_
    exact .cons (by decide) (noControl_members members member hMember)

theorem noControl_items : (items : List Value) → ∀ item ∈ items, NoControl (valueBytes item)
  | [] => List.forall_mem_nil _
  | item :: rest => List.forall_mem_cons.mpr ⟨noControl_valueBytes item, noControl_items rest⟩

theorem noControl_members : (members : List (String × Value)) →
    ∀ member ∈ members, NoControl (valueBytes member.2)
  | [] => List.forall_mem_nil _
  | (_, value) :: rest =>
    List.forall_mem_cons.mpr ⟨noControl_valueBytes value, noControl_members rest⟩

end

end DeviceRig.Json
