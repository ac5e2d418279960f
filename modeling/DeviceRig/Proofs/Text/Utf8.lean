import DeviceRig.Text.Utf8

/-!
# The bytes of a text

The bytes of a text are those of its characters in a row, and strict reading
gives the text back. Lossy reading has a meaning for all bytes, and it starts
afresh behind a line feed, which no sequence of bytes goes across.
-/
namespace DeviceRig.Utf8

theorem toList_loop (bytes : ByteArray) (i : Nat) (found : List UInt8) :
    ByteArray.toList.loop bytes i found = found.reverse ++ bytes.data.toList.drop i := by
  induction hLeft : bytes.size - i generalizing i found with
  | zero =>
    have hEnd : bytes.data.toList.length ≤ i := by
      rw [Array.length_toList]
      change bytes.size ≤ i
      omega
    rw [ByteArray.toList.loop, if_neg (by omega), List.drop_eq_nil_of_le hEnd, List.append_nil]
  | succ left ih =>
    have hIndex : i < bytes.size := by omega
    have hList : i < bytes.data.toList.length := hIndex
    rw [ByteArray.toList.loop, if_pos hIndex, ih _ _ (by omega), List.drop_eq_getElem_cons hList,
      List.reverse_cons, List.append_assoc]
    have hByte : bytes.get! i = bytes.data.toList[i] := getElem!_pos bytes.data i hIndex
    rw [hByte]
    rfl

theorem toList_eq (bytes : ByteArray) : bytes.toList = bytes.data.toList := by
  rw [ByteArray.toList, toList_loop]
  rfl

theorem bytes_eq (text : String) : bytes text = text.toList.flatMap String.utf8EncodeChar := by
  obtain ⟨chars, rfl⟩ := text.exists_eq_ofList
  rw [bytes, String.toUTF8_eq_toByteArray, String.toByteArray_ofList, String.toList_ofList,
    toList_eq, List.utf8Encode, List.toList_data_toByteArray]

theorem bytes_of_toList {text : String} {chars : List Char} (h : text.toList = chars) :
    bytes text = chars.flatMap String.utf8EncodeChar := by
  rw [bytes_eq, h]

@[simp]
theorem bytes_append (text more : String) : bytes (text ++ more) = bytes text ++ bytes more := by
  rw [bytes_eq, bytes_eq, bytes_eq, String.toList_append, List.flatMap_append]

@[simp]
theorem bytes_join (texts : List String) : bytes (String.join texts) = texts.flatMap bytes := by
  rw [bytes_eq, String.toList_join, List.flatMap_assoc]
  exact congrArg texts.flatMap (funext fun text => (bytes_eq text).symm)

theorem text?_bytes (text : String) : text? (bytes text) = some text := by
  have hBytes : (bytes text).toByteArray = text.toByteArray := by
    apply ByteArray.ext
    rw [bytes, toList_eq, List.data_toByteArray, Array.toArray_toList]
    rfl
  rw [text?, String.fromUTF8?, hBytes, dif_pos text.isValidUTF8]
  rfl

/-- A line feed continues nothing: what stands before it is read as if nothing came behind, and the
line feed is left. -/
theorem follow_append {needed : Nat} {low : UInt8} (hLow : needed = 0 ∨ 10 < low)
    (taken value : Nat) (high : UInt8) (bytes rest : List UInt8) :
    (follow taken value low high needed (bytes ++ 10 :: rest)).1.toChar =
        (follow taken value low high needed bytes).1.toChar ∧
      (follow taken value low high needed (bytes ++ 10 :: rest)).2 =
        (follow taken value low high needed bytes).2 ++ 10 :: rest := by
  induction needed generalizing taken value low high bytes with
  | zero => exact ⟨rfl, rfl⟩
  | succ needed ih =>
    cases bytes with
    | nil =>
      have hFeed : ¬(low ≤ 10 ∧ 10 ≤ high) := fun h =>
        UInt8.not_le.mpr (hLow.resolve_left (Nat.succ_ne_zero needed)) h.1
      simp only [List.nil_append, follow, if_neg hFeed, Piece.toChar, and_self]
    | cons byte bytes =>
      simp only [List.cons_append, follow]
      split
      · exact ih (.inr (by decide)) _ _ _ _
      · exact ⟨rfl, rfl⟩

theorem lead?_low {byte low high : UInt8} {needed value : Nat}
    (h : lead? byte = some (needed, low, high, value)) : needed = 0 ∨ 10 < low := by
  simp only [lead?] at h
  grind

theorem next_append (byte : UInt8) (bytes rest : List UInt8) :
    (next byte (bytes ++ 10 :: rest)).1.toChar = (next byte bytes).1.toChar ∧
      (next byte (bytes ++ 10 :: rest)).2 = (next byte bytes).2 ++ 10 :: rest := by
  unfold next
  split
  · exact ⟨rfl, rfl⟩
  · rename_i hLead
    exact follow_append (lead?_low hLead) _ _ _ _ _

theorem toList_appendLossy (text : String) (bytes : List UInt8) :
    (appendLossy text bytes).toList = text.toList ++ (lossy bytes).toList := by
  -- Behind the first piece both texts grow alike, so the bytes left decide.
  induction hLength : bytes.length using Nat.strongRecOn generalizing text bytes with
  | ind length ih =>
    cases bytes with
    | nil => simp [lossy, appendLossy]
    | cons byte bytes =>
      have hShorter : (next byte bytes).2.length < length := by
        rw [← hLength, List.length_cons]
        exact Nat.lt_succ_of_le (next_length_le byte bytes)
      rw [lossy, appendLossy, appendLossy, ih _ hShorter _ _ rfl, ih _ hShorter _ _ rfl]
      simp

theorem appendLossy_append (text : String) (bytes rest : List UInt8) :
    appendLossy text (bytes ++ 10 :: rest) =
      appendLossy ((appendLossy text bytes).push '\n') rest := by
  fun_induction appendLossy text bytes with
  | case1 text =>
    rw [List.nil_append, appendLossy]
    rfl
  | case2 text byte bytes ih =>
    obtain ⟨hChar, hRest⟩ := next_append byte bytes rest
    rw [List.cons_append, appendLossy, hChar, hRest, ih]

theorem lossy_nil : lossy [] = "" := by
  rw [lossy, appendLossy]

theorem toList_lossy_append (bytes rest : List UInt8) :
    (lossy (bytes ++ 10 :: rest)).toList =
      (lossy bytes).toList ++ '\n' :: (lossy rest).toList := by
  rw [lossy, appendLossy_append, toList_appendLossy]
  simp [lossy]

end DeviceRig.Utf8
