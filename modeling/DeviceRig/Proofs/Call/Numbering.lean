import DeviceRig.Proofs.Call.Consistency
import Mathlib.Data.Finset.Card
import Mathlib.Data.Nat.Find

/-!
# The number that a call gets

A table draws numbers from its counter until one comes that is not in use. The
counter goes around, and so may the numbers in use. A search that skipped more
numbers than are in use would have skipped one of them twice, and for that it
had to go around all numbers there are.
-/
namespace DeviceRig

/-- A number that was drawn, and the table that it was drawn from. -/
structure DrawnNumber where
  number : UInt32
  table : CallTable

def CallTable.draw (table : CallTable) : DrawnNumber :=
  ⟨table.nextId, { table with nextId := table.nextId + 1 }⟩

@[simp]
theorem CallTable.number_draw (table : CallTable) : table.draw.number = table.nextId := rfl

@[simp]
theorem CallTable.pending_draw (table : CallTable) : table.draw.table.pending = table.pending := rfl

namespace DrawnNumber

/-- Numbers in use are skipped, so many of them: each time the next one is drawn. -/
inductive Skips : Nat → DrawnNumber → DrawnNumber → Prop where
  | rest (drawn : DrawnNumber) : Skips 0 drawn drawn
  | skip {count : Nat} {drawn last : DrawnNumber} (hUsed : drawn.number ∈ drawn.table.pending)
      (hRest : Skips count drawn.table.draw last) : Skips (count + 1) drawn last

def enter (drawn : DrawnNumber) : CallTable :=
  { drawn.table with pending := drawn.number :: drawn.table.pending }

end DrawnNumber

namespace CallTable

open DrawnNumber

variable {table : CallTable}

def advanced (table : CallTable) (count : Nat) : CallTable :=
  { table with nextId := table.nextId + UInt32.ofNat count }

@[simp]
theorem advanced_zero (table : CallTable) : table.advanced 0 = table := by
  simp [advanced]

@[simp]
theorem advanced_succ (table : CallTable) (count : Nat) :
    table.advanced (count + 1) = table.draw.table.advanced count := by
  simp only [advanced, draw, Nat.add_comm count 1, UInt32.ofNat_add, ← UInt32.add_assoc]
  rfl

theorem skips_iff {count : Nat} {last : DrawnNumber} :
    Skips count table.draw last ↔ last = (table.advanced count).draw ∧
      ∀ k < count, (table.advanced k).nextId ∈ table.pending := by
  induction count generalizing table with
  | zero =>
    constructor
    · rintro ⟨⟩
      simp
    · rintro ⟨rfl, -⟩
      simpa using Skips.rest table.draw
  | succ count ih =>
    rw [advanced_succ]
    constructor
    · rintro ⟨⟩
      rename_i hUsed hRest
      obtain ⟨hLast, hAll⟩ := ih.mp hRest
      refine ⟨hLast, ?_⟩
      rintro (_ | k) hk
      · simpa using hUsed
      · simpa using hAll k (Nat.lt_of_succ_lt_succ hk)
    · rintro ⟨hLast, hAll⟩
      have hUsed := hAll 0 (Nat.succ_pos count)
      refine .skip (by simpa using hUsed) (ih.mpr ⟨hLast, fun k hk => ?_⟩)
      simpa using hAll (k + 1) (Nat.succ_lt_succ hk)

theorem nextId_advanced_inj {m n : Nat} (hm : m < 2 ^ 32) (hn : n < 2 ^ 32)
    (h : (table.advanced m).nextId = (table.advanced n).nextId) : m = n :=
  CallSystem.ofNat_inj hm hn (UInt32.add_right_inj table.nextId |>.mp h)

theorem le_card_of_used {count : Nat} (hRound : count ≤ 2 ^ 32)
    (hUsed : ∀ k < count, (table.advanced k).nextId ∈ table.pending) :
    count ≤ table.pending.toFinset.card := by
  have hMaps : ∀ k ∈ Finset.range count, (table.advanced k).nextId ∈ table.pending.toFinset :=
    fun k hk => List.mem_toFinset.mpr (hUsed k (Finset.mem_range.mp hk))
  have hInj : Set.InjOn (fun k => (table.advanced k).nextId) (Finset.range count) := by
    intro m hm n hn hSame
    rw [Finset.mem_coe, Finset.mem_range] at hm hn
    exact nextId_advanced_inj (Nat.lt_of_lt_of_le hm hRound) (Nat.lt_of_lt_of_le hn hRound) hSame
  have hCard := Finset.card_le_card_of_injOn _ hMaps hInj
  rwa [Finset.card_range] at hCard

/-- If a number is free, the counter comes to a free one before it has passed more numbers than are
in use. -/
theorem exists_free (hRoom : table.pending.toFinset.card < 2 ^ 32) :
    ∃ skips ≤ table.pending.toFinset.card, (table.advanced skips).nextId ∉ table.pending ∧
      ∀ k < skips, (table.advanced k).nextId ∈ table.pending := by
  have hSome : ∃ skips, (table.advanced skips).nextId ∉ table.pending := by
    by_contra hNone
    rw [not_exists] at hNone
    have hAll := le_card_of_used (Nat.le_refl (2 ^ 32)) fun k _ => not_not.mp (hNone k)
    omega
  have hUsed : ∀ k < Nat.find hSome, (table.advanced k).nextId ∈ table.pending :=
    fun k hk => not_not.mp (Nat.find_min hSome hk)
  refine ⟨Nat.find hSome, ?_, Nat.find_spec hSome, hUsed⟩
  -- A search of more than a round would have met a whole round of numbers in use.
  rcases Nat.le_total (Nat.find hSome) (2 ^ 32) with hRound | hMore
  · exact le_card_of_used hRound hUsed
  · have hAll := le_card_of_used (Nat.le_refl (2 ^ 32)) fun k hk =>
      hUsed k (Nat.lt_of_lt_of_le hk hMore)
    omega

theorem freeFrom_eq {skips bound : Nat} (hBound : skips ≤ bound)
    (hFree : (table.advanced skips).nextId ∉ table.pending)
    (hUsed : ∀ k < skips, (table.advanced k).nextId ∈ table.pending) :
    freeFrom table.pending table.nextId bound = (table.advanced skips).nextId := by
  induction skips generalizing table bound with
  | zero => simpa using freeFrom_of_notMem hFree bound
  | succ skips ih =>
    obtain ⟨bound, rfl⟩ := Nat.exists_eq_succ_of_ne_zero (Nat.ne_of_gt (Nat.zero_lt_of_lt hBound))
    have hFirst : table.nextId ∈ table.pending := by simpa using hUsed 0 (Nat.succ_pos skips)
    rw [advanced_succ] at hFree ⊢
    rw [freeFrom, if_pos (List.contains_iff_mem.mpr hFirst)]
    refine @ih table.draw.table bound (Nat.le_of_succ_le_succ hBound) hFree fun k hk => ?_
    simpa using hUsed (k + 1) (Nat.succ_lt_succ hk)

theorem register_eq (hOpen : table.closed = false) (hRoom : table.pending.toFinset.card < 2 ^ 32) :
    ∃ skips ≤ table.pending.toFinset.card, (table.advanced skips).nextId ∉ table.pending ∧
      (∀ k < skips, (table.advanced k).nextId ∈ table.pending) ∧
      table.register =
        some ((table.advanced skips).nextId, (table.advanced skips).draw.enter) := by
  obtain ⟨skips, hSkips, hFree, hUsed⟩ := exists_free hRoom
  have hBound : skips ≤ table.pending.length :=
    Nat.le_trans hSkips (List.toFinset_card_le table.pending)
  refine ⟨skips, hSkips, hFree, hUsed, ?_⟩
  rw [register, if_neg (by simp [hOpen]), freeFrom_eq hBound hFree hUsed]
  rfl

/-- While a number is free, a table that is not closed enters a call under the first free number
that the counter comes to, going around if need be, and changes nothing else: the numbers in use
stay, and the counter is right behind the new one. The search for it skips no more numbers than are
in use, and it cannot go on behind a free one. -/
theorem register_finds_first_free (hOpen : table.closed = false)
    (hRoom : table.pending.toFinset.card < 2 ^ 32) :
    ∃ skips last, Skips skips table.draw last ∧ last.number ∉ table.pending ∧
      skips ≤ table.pending.toFinset.card ∧
      (∀ count other, Skips count table.draw other → count ≤ skips) ∧
      last.number = table.nextId + UInt32.ofNat skips ∧
      (∀ k < skips, table.nextId + UInt32.ofNat k ∈ table.pending) ∧
      last.enter.pending = last.number :: table.pending ∧
      (table.pending.Nodup → last.enter.pending.Nodup) ∧
      last.enter.nextId.toNat = (last.number.toNat + 1) % 2 ^ 32 ∧ last.enter.closed = false ∧
      table.register = some (last.number, last.enter) := by
  obtain ⟨skips, hSkips, hFree, hUsed, hRegister⟩ := register_eq hOpen hRoom
  refine ⟨skips, (table.advanced skips).draw, skips_iff.mpr ⟨rfl, hUsed⟩, hFree, hSkips, ?_, rfl,
    hUsed, rfl, List.Nodup.cons hFree, UInt32.toNat_add _ _, hOpen, hRegister⟩
  intro count other hOther
  by_contra hMore
  exact hFree ((skips_iff.mp hOther).2 skips (Nat.lt_of_not_le hMore))

theorem register_finds_first_free_around :
    let table : CallTable := ⟨[4294967295, 7, 0], 4294967295, false⟩
    table.closed = false ∧ table.pending.toFinset.card < 2 ^ 32 ∧
      table.register = some (1, ⟨[1, 4294967295, 7, 0], 2, false⟩) ∧
      ∃ skips last, Skips skips table.draw last ∧ skips = 2 ∧ last.number = 1 := by
  intro table
  have hRoom : table.pending.toFinset.card < 2 ^ 32 := by decide
  have hRegister : table.register = some (1, ⟨[1, 4294967295, 7, 0], 2, false⟩) := by
    decide
  obtain ⟨skips, last, hLast, -, hSkips, -, hNumber, -, -, -, -, -, hFound⟩ :=
    @register_finds_first_free table rfl hRoom
  rw [hRegister, Option.some_inj] at hFound
  have hOne : last.number = 1 := (congrArg Prod.fst hFound).symm
  have hAhead : table.nextId + UInt32.ofNat skips = table.nextId + UInt32.ofNat 2 := by
    rw [← hNumber, hOne]
    decide
  have hCard : table.pending.toFinset.card = 3 := by decide
  have hTwo : skips = 2 :=
    CallSystem.ofNat_inj (by omega) (by decide) ((UInt32.add_right_inj _).mp hAhead)
  exact ⟨rfl, hRoom, hRegister, skips, last, hLast, hTwo, hOne⟩

end CallTable

namespace CallChannel

variable {channel after : CallChannel}

theorem Sound.begin (hSound : channel.Sound)
    (hRoom : channel.table.pending.toFinset.card < 2 ^ 32) {service method : String}
    {kwargs : Json.Value} {id : UInt32} {request : List UInt8}
    (h : channel.begin service method kwargs = .ok (id, request, after)) :
    channel.isPending id = false ∧ after.Sound ∧
      ∀ other, after.isPending other = (decide (other = id) || channel.isPending other) := by
  obtain ⟨members, table, -, hRegister, -, rfl⟩ := begin_eq_ok h
  obtain ⟨skips, -, hFree, -, hFound⟩ := CallTable.register_eq (closed_of_begin h) hRoom
  rw [hFound] at hRegister
  cases hRegister
  have hOpen : (channel.table.advanced skips).draw.enter.closed = false := closed_of_begin h
  refine ⟨decide_eq_false hFree, ⟨List.nodup_cons.mpr ⟨hFree, hSound.nodup⟩, ?_⟩, fun other => ?_⟩
  · intro hClosed
    rw [hOpen] at hClosed
    cases hClosed
  · rw [isPending, isPending, ← Bool.decide_or]
    exact decide_eq_decide.mpr List.mem_cons

end CallChannel

namespace CallSystem

abbrev LeadsWithRoom : CallSystem → CallSystem → Prop :=
  Relation.ReflTransGen fun s t =>
    Step s t ∧ s.channel.table.pending.toFinset.card < 2 ^ 32

theorem Step.sound {s t : CallSystem} (hStep : Step s t) (hSound : s.channel.Sound)
    (hRoom : s.channel.table.pending.toFinset.card < 2 ^ 32) : t.channel.Sound := by
  cases hStep with
  | enter hBegin => exact (hSound.begin hRoom hBegin).2.1
  | leaveUnsent | leaveExpired => exact hSound.forget _
  | receive => exact hSound.emptyMailbox _
  | dispatch frame =>
    dsimp only
    rw [CallChannel.handle_eq]
    split
    · exact hSound.resolve _ _
    · exact hSound
  | close => exact CallChannel.sound_close _
  | refuse | send | failToSend | wake | expire => exact hSound

theorem LeadsWithRoom.sound {s : CallSystem} (h : LeadsWithRoom start s) : s.channel.Sound := by
  induction h with
  | refl => exact CallChannel.sound_new
  | tail _ hStep ih => exact hStep.1.sound ih hStep.2

end CallSystem

end DeviceRig
