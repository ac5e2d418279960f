import DeviceRig.Task.Error
import DeviceRig.Task.Report

/-!
The outcome of a batch: one slot per task, in the order of the specs, each with the value that the
task returned or the failure that it ended with. Results and errors arrive on two channels, tagged
with the index of their task. Of several results or errors for a slot the first counts, and an
error counts more than a result.
-/
namespace DeviceRig

open Json

inductive TaskResult where
  | returned (value : Value)
  | noResult
deriving BEq, Repr, Inhabited

namespace TaskResult

def placeholder : String := "< No result received >"

def value? : TaskResult → Option Value
  | .returned value => some value
  | .noResult => none

def isNoResult : TaskResult → Bool
  | .returned _ => false
  | .noResult => true

def toValue : TaskResult → Value
  | .returned value => value
  | .noResult => .text placeholder

def display : TaskResult → String
  | .returned value => value.compact
  | .noResult => placeholder

end TaskResult

structure BatchOutcome where
  results : List TaskResult
  errors : List (Option TaskFailure)
deriving BEq, Repr, Inhabited

namespace BatchOutcome

def size (outcome : BatchOutcome) : Nat :=
  outcome.results.length

def isSuccess (outcome : BatchOutcome) : Bool :=
  outcome.errors.all Option.isNone

def failuresFrom (index : Nat) : List (Option TaskFailure) → List (Nat × TaskFailure)
  | [] => []
  | none :: rest => failuresFrom (index + 1) rest
  | some failure :: rest => (index, failure) :: failuresFrom (index + 1) rest

def failures (outcome : BatchOutcome) : List (Nat × TaskFailure) :=
  failuresFrom 0 outcome.errors

def failureValue (failure : TaskFailure) : Value :=
  .object [("kind", .text failure.kind), ("message", .text failure.message)]

def toValue (outcome : BatchOutcome) : Value :=
  .object [("results", .list (outcome.results.map TaskResult.toValue)),
    ("errors", .list (outcome.errors.map (Value.ofOption failureValue)))]

end BatchOutcome

structure Arrivals where
  results : List (Nat × Value)
  errors : List (Nat × TaskFailure)
deriving BEq, Repr, Inhabited

namespace Arrivals

def empty : Arrivals := ⟨[], []⟩

def add (arrivals : Arrivals) : TaskReport → Arrivals
  | .result index value => { arrivals with results := arrivals.results ++ [(index, value)] }
  | .failed index failure => { arrivals with errors := arrivals.errors ++ [(index, failure)] }

def addAll (arrivals : Arrivals) (reports : List TaskReport) : Arrivals :=
  reports.foldl add arrivals

def placeResult (slots : List TaskResult) (arrival : Nat × Value) : List TaskResult :=
  slots.modify arrival.1 fun slot => if slot.isNoResult then .returned arrival.2 else slot

def placeError (slots : List (Option TaskFailure)) (arrival : Nat × TaskFailure) :
    List (Option TaskFailure) :=
  slots.modify arrival.1 fun slot => slot.or (some arrival.2)

/-- Leaves exactly one of a result and an error in a slot. -/
def settle : TaskResult → Option TaskFailure → TaskResult × Option TaskFailure
  | .noResult, none => (.noResult, some .noResult)
  | _, some failure => (.noResult, some failure)
  | .returned value, none => (.returned value, none)

def reconcile (count : Nat) (arrivals : Arrivals) : BatchOutcome :=
  let results := arrivals.results.foldl placeResult (List.replicate count .noResult)
  let errors := arrivals.errors.foldl placeError (List.replicate count none)
  let slots := List.zipWith settle results errors
  ⟨slots.map Prod.fst, slots.map Prod.snd⟩

end Arrivals

inductive ErrorPolicy where
  | raise
  | collect
deriving DecidableEq, Repr, Inhabited

def ErrorPolicy.apply (policy : ErrorPolicy) (outcome : BatchOutcome) :
    Except BatchError BatchOutcome :=
  match policy with
  | .collect => .ok outcome
  | .raise =>
    match outcome.failures with
    | [] => .ok outcome
    | failures => .error (.tasksFailed failures)

end DeviceRig
