import DeviceRig.Task.Executor

/-!
# Reconciled outcomes

What a slot of an outcome holds depends on the first error and the first
result that arrived for its index and on nothing else. The policy for failures
either passes an outcome on or lists its failed slots.
-/
namespace DeviceRig

open Json

/-- Filling slots from arrivals, each only while it is free, leaves in a free slot the first arrival
for its index. -/
theorem getElem?_fillFree {Slot Item : Type} (isFree : Slot → Bool) (fill : Item → Slot)
    (hFilled : ∀ item, isFree (fill item) = false) (arrivals : List (Nat × Item))
    (slots : List Slot) (i : Nat) :
    (arrivals.foldl (fun slots arrival =>
        slots.modify arrival.1 fun slot =>
          if isFree slot then fill arrival.2 else slot) slots)[i]? =
      slots[i]?.map fun slot =>
        if isFree slot then ((arrivals.lookup i).map fill).getD slot else slot := by
  induction arrivals generalizing slots with
  | nil => simp
  | cons arrival rest ih =>
    obtain ⟨index, item⟩ := arrival
    rw [List.foldl_cons, ih, List.getElem?_modify, Option.map_eq_map, Option.map_map]
    congr 1
    funext slot
    dsimp only [Function.comp_apply]
    by_cases hIndex : index = i
    · subst hIndex
      rw [if_pos rfl, List.lookup_cons_self]
      cases hFree : isFree slot with
      | true => simp [hFilled]
      | false => simp [hFree]
    · rw [if_neg hIndex, List.lookup_cons, beq_false_of_ne (Ne.symm hIndex)]

theorem eq_map_range {Slot : Type} {slots : List Slot} {slot : Nat → Slot} {count : Nat}
    (hLength : slots.length = count) (hSlots : ∀ i < count, slots[i]? = some (slot i)) :
    slots = (List.range count).map slot := by
  apply List.ext_getElem?
  intro i
  by_cases hi : i < count
  · rw [hSlots i hi, List.getElem?_map, List.getElem?_range hi]
    rfl
  · rw [List.getElem?_eq_none (by omega), List.getElem?_eq_none]
    rw [List.length_map, List.length_range]
    omega

namespace Arrivals

/-- What the slot of an index holds: its first error or else its first result. -/
def slot (arrivals : Arrivals) (index : Nat) : TaskResult × Option TaskFailure :=
  match arrivals.errors.lookup index, arrivals.results.lookup index with
  | some failure, _ => (.noResult, some failure)
  | none, some value => (.returned value, none)
  | none, none => (.noResult, some .noResult)

theorem getElem?_results (arrivals : List (Nat × Value)) (count i : Nat) (hi : i < count) :
    (arrivals.foldl placeResult (List.replicate count .noResult))[i]? =
      some (((arrivals.lookup i).map .returned).getD .noResult) := by
  have hFill := getElem?_fillFree TaskResult.isNoResult TaskResult.returned (fun _ => rfl) arrivals
    (List.replicate count .noResult) i
  rw [List.getElem?_replicate, if_pos hi] at hFill
  exact hFill

theorem getElem?_errors (arrivals : List (Nat × TaskFailure)) (count i : Nat) (hi : i < count) :
    (arrivals.foldl placeError (List.replicate count none))[i]? = some (arrivals.lookup i) := by
  have hPlace : placeError = fun slots arrival => slots.modify arrival.1 fun slot =>
      if slot.isNone then some arrival.2 else slot := by
    funext slots arrival
    refine congrArg (slots.modify arrival.1) (funext fun slot => ?_)
    cases slot <;> rfl
  have hFill := getElem?_fillFree Option.isNone some (fun _ => rfl) arrivals
    (List.replicate count none) i
  rw [List.getElem?_replicate, if_pos hi, ← hPlace] at hFill
  rw [hFill]
  cases arrivals.lookup i <;> rfl

theorem length_placeAll {Slot Item : Type} (place : List Slot → Nat × Item → List Slot)
    (hPlace : ∀ slots arrival, (place slots arrival).length = slots.length)
    (arrivals : List (Nat × Item)) (slots : List Slot) :
    (arrivals.foldl place slots).length = slots.length := by
  induction arrivals generalizing slots with
  | nil => rfl
  | cons arrival rest ih => rw [List.foldl_cons, ih, hPlace]

theorem settle_first (arrivals : Arrivals) (i : Nat) :
    settle (((arrivals.results.lookup i).map .returned).getD .noResult)
      (arrivals.errors.lookup i) = arrivals.slot i := by
  unfold slot
  cases arrivals.errors.lookup i with
  | some failure => cases arrivals.results.lookup i <;> rfl
  | none => cases arrivals.results.lookup i <;> rfl

theorem reconcile_eq (count : Nat) (arrivals : Arrivals) :
    arrivals.reconcile count =
      ⟨(List.range count).map fun i => (arrivals.slot i).1,
        (List.range count).map fun i => (arrivals.slot i).2⟩ := by
  have hResults := length_placeAll placeResult (fun _ _ => List.length_modify ..)
    arrivals.results (List.replicate count .noResult)
  have hErrors := length_placeAll placeError (fun _ _ => List.length_modify ..)
    arrivals.errors (List.replicate count none)
  rw [List.length_replicate] at hResults hErrors
  have hSlots : List.zipWith settle
      (arrivals.results.foldl placeResult (List.replicate count .noResult))
      (arrivals.errors.foldl placeError (List.replicate count none)) =
        (List.range count).map arrivals.slot := by
    refine eq_map_range (by rw [List.length_zipWith, hResults, hErrors, Nat.min_self]) ?_
    intro i hi
    rw [List.getElem?_zipWith, getElem?_results _ _ _ hi, getElem?_errors _ _ _ hi]
    exact congrArg some (settle_first arrivals i)
  unfold reconcile
  dsimp only
  rw [hSlots, List.map_map, List.map_map]
  rfl

end Arrivals

namespace BatchOutcome

theorem mem_failuresFrom {start index : Nat} {failure : TaskFailure}
    {errors : List (Option TaskFailure)} :
    (index, failure) ∈ failuresFrom start errors ↔
      start ≤ index ∧ errors[index - start]? = some (some failure) := by
  induction errors generalizing start with
  | nil => simp [failuresFrom]
  | cons error rest ih =>
    have hLater : start < index → (error :: rest)[index - start]? = rest[index - (start + 1)]? := by
      intro hLess
      rw [show index - start = index - (start + 1) + 1 by omega, List.getElem?_cons_succ]
    cases error with
    | none =>
      rw [failuresFrom, ih]
      constructor
      · rintro ⟨hLess, hFound⟩
        exact ⟨Nat.le_of_lt hLess, (hLater hLess).trans hFound⟩
      · rintro ⟨hLe, hFound⟩
        have hLess : start < index := by
          refine Nat.lt_of_le_of_ne hLe ?_
          rintro rfl
          rw [Nat.sub_self] at hFound
          cases hFound
        exact ⟨hLess, (hLater hLess).symm.trans hFound⟩
    | some first =>
      rw [failuresFrom, List.mem_cons, ih, Prod.mk.injEq]
      constructor
      · rintro (⟨rfl, rfl⟩ | ⟨hLess, hFound⟩)
        · exact ⟨Nat.le_refl _, by rw [Nat.sub_self]; rfl⟩
        · exact ⟨Nat.le_of_lt hLess, (hLater hLess).trans hFound⟩
      · rintro ⟨hLe, hFound⟩
        rcases Nat.eq_or_lt_of_le hLe with rfl | hLess
        · rw [Nat.sub_self] at hFound
          cases hFound
          exact .inl ⟨rfl, rfl⟩
        · exact .inr ⟨hLess, (hLater hLess).symm.trans hFound⟩

theorem pairwise_failuresFrom (start : Nat) (errors : List (Option TaskFailure)) :
    (failuresFrom start errors).Pairwise fun earlier later => earlier.1 < later.1 := by
  induction errors generalizing start with
  | nil => exact List.Pairwise.nil
  | cons error rest ih =>
    cases error with
    | none => exact ih (start + 1)
    | some first =>
      refine List.Pairwise.cons ?_ (ih (start + 1))
      rintro ⟨index, failure⟩ hLater
      exact (mem_failuresFrom.mp hLater).1

theorem mem_failures {outcome : BatchOutcome} {index : Nat} {failure : TaskFailure} :
    (index, failure) ∈ outcome.failures ↔ outcome.errors[index]? = some (some failure) := by
  rw [failures, mem_failuresFrom]
  exact and_iff_right (Nat.zero_le index)

end BatchOutcome

namespace ErrorPolicy

theorem apply_raise_of_none {outcome : BatchOutcome} (h : outcome.failures = []) :
    raise.apply outcome = .ok outcome := by
  rw [apply, h]

theorem apply_raise_of_some {outcome : BatchOutcome} (h : outcome.failures ≠ []) :
    raise.apply outcome = .error (.tasksFailed outcome.failures) := by
  obtain ⟨failure, rest, hFailures⟩ := List.exists_cons_of_ne_nil h
  rw [apply, hFailures]

end ErrorPolicy

theorem TaskProgram.length_launchFrom (program : TaskProgram) (index : Nat) (rig : Rig)
    (specs : List TaskSpec) : (program.launchFrom index rig specs).1.length = specs.length := by
  induction specs generalizing index rig with
  | nil => rfl
  | cons spec rest ih =>
    exact congrArg (· + 1) (ih (index + 1) (program.launch index spec rig).2)

/-- A batch ends with its policy applied to what is reconciled from the reports of its launches. -/
theorem executeBatch_eq (program : TaskProgram) (specs : List TaskSpec) (deadline : Duration)
    (grace : Grace) (policy : ErrorPolicy) (rig : Rig) :
    let launches := (program.launchFrom 0 rig specs).1
    let arrived := Arrivals.empty.addAll
      (reportsFrom deadline grace (batchEnd deadline grace launches) 0 launches)
    (executeBatch program specs deadline grace policy rig).1 =
      policy.apply (arrived.reconcile specs.length) := by
  intro launches arrived
  rw [← program.length_launchFrom 0 rig specs]
  rfl

namespace Arrivals

theorem getElem?_reconcile (arrivals : Arrivals) {count i : Nat} (hi : i < count) :
    (arrivals.reconcile count).results[i]? = some (arrivals.slot i).1 ∧
      (arrivals.reconcile count).errors[i]? = some (arrivals.slot i).2 := by
  rw [reconcile_eq]
  constructor
  · rw [List.getElem?_map, List.getElem?_range hi]
    rfl
  · rw [List.getElem?_map, List.getElem?_range hi]
    rfl

theorem length_reconcile (arrivals : Arrivals) (count : Nat) :
    (arrivals.reconcile count).results.length = count ∧
      (arrivals.reconcile count).errors.length = count := by
  rw [reconcile_eq]
  simp

theorem slot_exclusive (arrivals : Arrivals) (i : Nat) :
    (∃ value, (arrivals.slot i).1 = .returned value) ↔
      ¬∃ failure, (arrivals.slot i).2 = some failure := by
  unfold slot
  cases arrivals.errors.lookup i with
  | some failure => simp
  | none => cases arrivals.results.lookup i <;> simp

theorem failures_reconcile (arrivals : Arrivals) (count : Nat) :
    (arrivals.reconcile count).failures = [] ↔
      ∀ i < count, (arrivals.reconcile count).errors[i]? = some none := by
  rw [List.eq_nil_iff_forall_not_mem]
  constructor
  · intro hNone i hi
    rw [(arrivals.getElem?_reconcile hi).2]
    cases hSlot : (arrivals.slot i).2 with
    | none => rfl
    | some failure =>
      refine absurd (BatchOutcome.mem_failures.mpr ?_) (hNone (i, failure))
      rw [(arrivals.getElem?_reconcile hi).2, hSlot]
  · rintro hNone ⟨i, failure⟩ hFailure
    have hFound := BatchOutcome.mem_failures.mp hFailure
    have hi : i < count := by
      obtain ⟨hLess, -⟩ := List.getElem?_eq_some_iff.mp hFound
      rwa [(arrivals.length_reconcile count).2] at hLess
    rw [hNone i hi] at hFound
    cases hFound

/-- Every slot holds the first error that arrived for it, or else the first result, or else the
failure of a task that reported nothing. Collecting passes the outcome on; raising does so only if
no slot failed, and else lists the failed slots. So ends every batch, with the reports of its
launches for the arrivals. -/
theorem reconcile_exact (count : Nat) (arrivals : Arrivals) :
    let outcome := arrivals.reconcile count
    outcome.results.length = count ∧ outcome.errors.length = count ∧
      (∀ i < count,
        (∀ failure, arrivals.errors.lookup i = some failure →
          outcome.results[i]? = some .noResult ∧ outcome.errors[i]? = some (some failure)) ∧
        (∀ value, arrivals.errors.lookup i = none → arrivals.results.lookup i = some value →
          outcome.results[i]? = some (.returned value) ∧ outcome.errors[i]? = some none) ∧
        (arrivals.errors.lookup i = none → arrivals.results.lookup i = none →
          outcome.results[i]? = some .noResult ∧
            outcome.errors[i]? =
              some (some ⟨"NoResultReceivedError",
                "Did not receive any results from the process."⟩)) ∧
        ((∃ value, outcome.results[i]? = some (.returned value)) ↔
          ¬∃ failure, outcome.errors[i]? = some (some failure))) ∧
      ErrorPolicy.collect.apply outcome = .ok outcome ∧
      ((∀ i < count, outcome.errors[i]? = some none) →
        ErrorPolicy.raise.apply outcome = .ok outcome) ∧
      ((¬∀ i < count, outcome.errors[i]? = some none) →
        ∃ failures, ErrorPolicy.raise.apply outcome = .error (.tasksFailed failures) ∧
          failures.Pairwise (fun earlier later => earlier.1 < later.1) ∧
          ∀ i failure, (i, failure) ∈ failures ↔ outcome.errors[i]? = some (some failure)) ∧
      ∀ (program : TaskProgram) (specs : List TaskSpec) (deadline : Duration) (grace : Grace)
        (policy : ErrorPolicy) (rig : Rig),
        let launches := (program.launchFrom 0 rig specs).1
        let arrived := Arrivals.empty.addAll
          (reportsFrom deadline grace (batchEnd deadline grace launches) 0 launches)
        (executeBatch program specs deadline grace policy rig).1 =
          policy.apply (arrived.reconcile specs.length) := by
  intro outcome
  obtain ⟨hResults, hErrors⟩ := arrivals.length_reconcile count
  refine ⟨hResults, hErrors, fun i hi => ?_, rfl, fun hNone => ?_, fun hSome => ?_, executeBatch_eq⟩
  · obtain ⟨hResult, hError⟩ := arrivals.getElem?_reconcile hi
    refine ⟨fun failure hFirst => ?_, fun value hNone hFirst => ?_, fun hNone hNothing => ?_, ?_⟩
    · rw [hResult, hError, slot, hFirst]
      exact ⟨rfl, rfl⟩
    · rw [hResult, hError, slot, hNone, hFirst]
      exact ⟨rfl, rfl⟩
    · rw [hResult, hError, slot, hNone, hNothing]
      exact ⟨rfl, rfl⟩
    · rw [hResult, hError]
      simpa using arrivals.slot_exclusive i
  · exact ErrorPolicy.apply_raise_of_none ((arrivals.failures_reconcile count).mpr hNone)
  · have hFailures : outcome.failures ≠ [] := fun h =>
      hSome ((arrivals.failures_reconcile count).mp h)
    exact ⟨outcome.failures, ErrorPolicy.apply_raise_of_some hFailures,
      BatchOutcome.pairwise_failuresFrom 0 outcome.errors, fun i failure =>
        BatchOutcome.mem_failures⟩

end Arrivals

end DeviceRig
