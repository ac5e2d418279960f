import DeviceRig.Frame.Basic

/-!
# Stuffed bytes and the words behind them

Stuffing is undone by a function on whole pieces of the wire, and a checksum
word is recovered from its four bytes. Neither mentions the decoder, so that
frames on the wire can be described without running it.
-/
namespace DeviceRig.Frame

/-- Undoes stuffing. A piece that ends in an escape has nothing behind it. -/
def unstuff : List UInt8 → Option (List UInt8)
  | [] => some []
  | [byte] => if byte = escape then none else some [byte]
  | byte :: next :: rest =>
    if byte = escape then (unstuff rest).map ((next ^^^ escapeMask) :: ·)
    else (unstuff (next :: rest)).map (byte :: ·)

/-- The number that some bytes hold, least significant byte first. -/
def littleEndian (bytes : List UInt8) : Nat :=
  bytes.foldr (fun byte more => byte.toNat + 256 * more) 0

theorem wordBytes_eq_iff (word : UInt32) (bytes : List UInt8) (hLength : bytes.length = 4) :
    bytes = wordBytes word ↔ word.toNat = littleEndian bytes := by
  match bytes, hLength with
  | [a, b, c, d], _ =>
    have ha := a.toNat_lt
    have hb := b.toNat_lt
    have hc := c.toNat_lt
    have hd := d.toNat_lt
    have hword := word.toNat_lt
    simp only [wordBytes, littleEndian, List.foldr_cons, List.foldr_nil, List.cons.injEq,
      and_true, ← UInt8.toNat_inj, UInt32.toNat_toUInt8, UInt32.toNat_shiftRight,
      Nat.shiftRight_eq_div_pow, UInt32.reduceToNat, Nat.reduceMod, Nat.reducePow]
      at ha hb hc hd hword ⊢
    omega

theorem flag_notMem_stuff (byte : UInt8) : flag ∉ stuff byte := by
  unfold stuff
  split
  · rename_i hSpecial
    rcases hSpecial with rfl | rfl <;> decide
  · rename_i hPlain
    simpa [eq_comm] using fun h : byte = flag => hPlain (.inl h)

theorem flag_notMem_stuffed (bytes : List UInt8) : flag ∉ bytes.flatMap stuff := by
  simp [List.mem_flatMap, flag_notMem_stuff]

theorem unstuff_stuff_append (byte : UInt8) (rest : List UInt8) :
    unstuff (stuff byte ++ rest) = (unstuff rest).map (byte :: ·) := by
  unfold stuff
  split
  · have hMask : byte ^^^ escapeMask ^^^ escapeMask = byte := by
      rw [UInt8.xor_assoc, UInt8.xor_self, UInt8.xor_zero]
    simp [unstuff, hMask]
  · rename_i hPlain
    have hEscape : byte ≠ escape := fun h => hPlain (.inr h)
    cases rest with
    | nil => simp [unstuff, hEscape]
    | cons next rest => simp [unstuff, hEscape]

theorem unstuff_stuffed (bytes : List UInt8) : unstuff (bytes.flatMap stuff) = some bytes := by
  induction bytes with
  | nil => rfl
  | cons byte bytes ih =>
    rw [List.flatMap_cons, unstuff_stuff_append, ih]
    rfl

end DeviceRig.Frame
