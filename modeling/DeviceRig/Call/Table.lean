/-!
The table of calls in flight. Every call has a number of 32 bits, drawn from a counter that wraps
around and skips the numbers still in use. A closed table is empty and takes no more calls.
-/
namespace DeviceRig

structure CallTable where
  pending : List UInt32
  nextId : UInt32
  closed : Bool
deriving DecidableEq, Repr, Inhabited

namespace CallTable

def new : CallTable := ⟨[], 0, false⟩

/-- The first number that is not in use, counting upwards. As many skips as there are calls
suffice. -/
def freeFrom (pending : List UInt32) (id : UInt32) : Nat → UInt32
  | 0 => id
  | skips + 1 => if pending.contains id then freeFrom pending (id + 1) skips else id

def register (table : CallTable) : Option (UInt32 × CallTable) :=
  if table.closed then none
  else
    let id := freeFrom table.pending table.nextId table.pending.length
    some (id, { table with pending := id :: table.pending, nextId := id + 1 })

def resolve (table : CallTable) (id : UInt32) : Bool × CallTable :=
  (table.pending.contains id, { table with pending := table.pending.erase id })

def forget (table : CallTable) (id : UInt32) : CallTable :=
  { table with pending := table.pending.erase id }

def close (table : CallTable) : CallTable :=
  { table with pending := [], closed := true }

end CallTable

end DeviceRig
