import DeviceRig.Json.Tagged
import Mathlib.Data.List.TakeWhile

/-!
# What a reader takes

A reader takes some bytes if it succeeds on them, whatever stands behind them
and whether or not the first of them was looked at. Readers in a row take their
bytes one after the other.
-/
namespace DeviceRig.Json.Reader

variable {α β : Type}

/-- On some bytes a reader succeeds with a value and leaves the rest. -/
def Reads (reader : Reader α) (input : List UInt8) (value : α) (rest : List UInt8) : Prop :=
  ∀ peeked, ∃ after, reader ⟨input, peeked⟩ = (.ok value, ⟨rest, after⟩)

theorem bind_apply (reader : Reader α) (next : α → Reader β) (cursor : Cursor) :
    (reader >>= next) cursor =
      match reader cursor with
      | (.ok value, after) => next value after
      | (.error failure, after) => (.error failure, after) := by
  change ExceptT.bindCont next (reader cursor).1 (reader cursor).2 = _
  rcases reader cursor with ⟨result, after⟩
  cases result with
  | ok value => rfl
  | error failure => rfl

theorem bind_eq_ok {reader : Reader α} {next : α → Reader β} {cursor last : Cursor} {value : β}
    (h : (reader >>= next) cursor = (.ok value, last)) :
    ∃ found after, reader cursor = (.ok found, after) ∧ next found after = (.ok value, last) := by
  rw [bind_apply] at h
  rcases hReader : reader cursor with ⟨result, after⟩
  rw [hReader] at h
  cases result with
  | ok found => exact ⟨found, after, rfl, h⟩
  | error failure => cases h

theorem run_eq_ok {reader : Reader α} {source : Source} {text : List UInt8} {value : α}
    (h : reader.run source text = .ok value) :
    ∃ last, reader ⟨text, false⟩ = (.ok value, last) := by
  unfold run at h
  rcases hReader : reader ⟨text, false⟩ with ⟨result, last⟩
  rw [hReader] at h
  cases result with
  | ok found =>
    cases h
    exact ⟨last, rfl⟩
  | error failure => cases h

theorem accept_eq_ok {outcome : Except Mismatch α} {cursor last : Cursor} {value : α}
    (h : accept outcome cursor = (.ok value, last)) : outcome = .ok value := by
  cases outcome with
  | ok found =>
    cases h
    rfl
  | error failure => cases h

theorem reads_pure (value : α) (input : List UInt8) :
    Reads (pure value) input value input :=
  fun peeked => ⟨peeked, rfl⟩

theorem Reads.bind {reader : Reader α} {next : α → Reader β} {input middle rest : List UInt8}
    {found : α} {value : β} (hReader : Reads reader input found middle)
    (hNext : Reads (next found) middle value rest) : Reads (reader >>= next) input value rest := by
  intro peeked
  obtain ⟨after, hFound⟩ := hReader peeked
  obtain ⟨last, hValue⟩ := hNext after
  refine ⟨last, ?_⟩
  rw [bind_apply, hFound]
  exact hValue

theorem reads_get {next : Cursor → Reader β} {input rest : List UInt8} {value : β}
    (h : ∀ peeked, Reads (next ⟨input, peeked⟩) input value rest) :
    Reads (get >>= next) input value rest := by
  intro peeked
  obtain ⟨after, hValue⟩ := h peeked peeked
  exact ⟨after, hValue⟩

theorem reads_peek (input : List UInt8) : Reads peek input input.head? input :=
  fun _ => ⟨_, rfl⟩

theorem reads_advance (byte : UInt8) (rest : List UInt8) : Reads advance (byte :: rest) () rest :=
  fun _ => ⟨_, rfl⟩

theorem reads_next (byte : UInt8) (rest : List UInt8) :
    Reads next (byte :: rest) (some byte) rest :=
  fun _ => ⟨_, rfl⟩

theorem reads_skipBlanks {byte : UInt8} (hByte : isSpace byte = false) (rest : List UInt8) :
    Reads skipBlanks (byte :: rest) (some byte) (byte :: rest) := by
  intro peeked
  refine ⟨true, ?_⟩
  rw [skipBlanks, bind_apply]
  change peek (if isSpace byte = true then _ else (⟨byte :: rest, peeked⟩ : Cursor)) = _
  rw [hByte]
  rfl

theorem reads_word (letters rest : List UInt8) :
    Reads (word letters) (letters ++ rest) () rest := by
  induction letters with
  | nil => exact reads_pure () rest
  | cons letter letters ih =>
    refine (reads_next letter (letters ++ rest)).bind ?_
    change Reads (if letter = letter then word letters else failHere .wordExpected) _ _ _
    rw [if_pos rfl]
    exact ih

theorem reads_colon (rest : List UInt8) : Reads colon (58 :: rest) () rest :=
  (reads_skipBlanks rfl rest).bind (reads_advance 58 rest)

theorem Reads.placed {reader : Reader α} {input rest : List UInt8} {value : α}
    (h : Reads reader input value rest) : Reads (placed reader) input value rest := by
  intro peeked
  obtain ⟨after, hValue⟩ := h peeked
  refine ⟨after, ?_⟩
  rw [Reader.placed, hValue]

theorem Reads.closedBy {inside : Reader α} {close : Reader Unit} {input middle rest : List UInt8}
    {value : α} (hInside : Reads inside input value middle) (hClose : Reads close middle () rest) :
    Reads (closedBy inside close) input value rest := by
  intro peeked
  obtain ⟨after, hValue⟩ := hInside peeked
  obtain ⟨last, hEnd⟩ := hClose after
  refine ⟨last, ?_⟩
  simp only [Reader.closedBy, hValue, hEnd]

theorem skipBlanks_apply (rest : List UInt8) (peeked : Bool) :
    ∃ after, skipBlanks ⟨rest, peeked⟩ =
      (.ok (rest.dropWhile isSpace).head?, ⟨rest.dropWhile isSpace, after⟩) := by
  rw [skipBlanks, bind_apply]
  cases rest with
  | nil => exact ⟨false, rfl⟩
  | cons first rest =>
    change ∃ after,
      peek (if isSpace first = true then _ else (⟨first :: rest, peeked⟩ : Cursor)) = _
    cases hSpace : isSpace first with
    | true => exact ⟨_, rfl⟩
    | false =>
      rw [List.dropWhile_cons_of_neg (by simp [hSpace])]
      exact ⟨true, rfl⟩

theorem finish_apply (rest : List UInt8) (peeked : Bool) :
    ((∀ byte ∈ rest, isSpace byte = true) → ∃ last, finish ⟨rest, peeked⟩ = (.ok (), last)) ∧
      (¬(∀ byte ∈ rest, isSpace byte = true) →
        ∃ failure last, finish ⟨rest, peeked⟩ = (.error failure, last)) := by
  obtain ⟨after, hSkip⟩ := skipBlanks_apply rest peeked
  rw [finish, bind_apply, hSkip, ← List.dropWhile_eq_nil_iff]
  cases rest.dropWhile isSpace with
  | nil => exact ⟨fun _ => ⟨_, rfl⟩, fun h => absurd rfl h⟩
  | cons byte more => exact ⟨nofun, fun _ => ⟨_, _, rfl⟩⟩

/-- Whether a text holds a value: a reader takes the value from its front, and nothing but blanks
stands behind it. -/
def Holds (reader : Reader α) (text : List UInt8) (value : α) : Prop :=
  ∃ rest peeked, reader ⟨text, false⟩ = (.ok value, ⟨rest, peeked⟩) ∧
    ∀ byte ∈ rest, isSpace byte = true

theorem run_only_eq_ok_iff {reader : Reader α} {text : List UInt8} {value : α} (source : Source) :
    (only reader).run source text = .ok value ↔ Holds reader text value := by
  constructor
  · intro hRun
    obtain ⟨last, hOnly⟩ := run_eq_ok hRun
    obtain ⟨found, ⟨rest, peeked⟩, hReader, hEnd⟩ := bind_eq_ok hOnly
    obtain ⟨⟨⟩, behind, hFinish, hFound⟩ := bind_eq_ok hEnd
    cases hFound
    refine ⟨rest, peeked, hReader, Classical.byContradiction fun hMore => ?_⟩
    obtain ⟨failure, other, hFailure⟩ := (finish_apply rest peeked).2 hMore
    rw [hFailure] at hFinish
    cases hFinish
  · rintro ⟨rest, peeked, hReader, hBlanks⟩
    obtain ⟨last, hFinish⟩ := (finish_apply rest peeked).1 hBlanks
    rw [run, only, bind_apply, hReader]
    dsimp only
    rw [bind_apply, hFinish]
    rfl

theorem Reads.holds_iff {reader : Reader α} {text rest : List UInt8} {value other : α}
    (h : Reads reader text value rest) :
    Holds reader text other ↔ other = value ∧ ∀ byte ∈ rest, isSpace byte = true := by
  obtain ⟨peeked, hReader⟩ := h false
  constructor
  · rintro ⟨behind, after, hOther, hBlanks⟩
    rw [hReader] at hOther
    cases hOther
    exact ⟨rfl, hBlanks⟩
  · rintro ⟨rfl, hBlanks⟩
    exact ⟨rest, peeked, hReader, hBlanks⟩

theorem Reads.run_only {reader : Reader α} {text : List UInt8} {value : α}
    (h : Reads reader text value []) (source : Source) :
    (only reader).run source text = .ok value :=
  (run_only_eq_ok_iff source).mpr (h.holds_iff.mpr ⟨rfl, List.forall_mem_nil _⟩)

end DeviceRig.Json.Reader
