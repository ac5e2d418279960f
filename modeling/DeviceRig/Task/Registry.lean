import DeviceRig.Task.Spec

/-!
Tasks by name. Registering a name again replaces its task.
-/
namespace DeviceRig

structure TaskRegistry (Task : Type) where
  entries : List (String × Task)

namespace TaskRegistry

variable {Task : Type}

def empty : TaskRegistry Task := ⟨[]⟩

def register (registry : TaskRegistry Task) (name : String) (task : Task) : TaskRegistry Task :=
  ⟨registry.entries.filter (fun entry => entry.1 ≠ name) ++ [(name, task)]⟩

def find? (registry : TaskRegistry Task) (name : String) : Option Task :=
  registry.entries.lookup name

def contains (registry : TaskRegistry Task) (name : String) : Bool :=
  (registry.find? name).isSome

def names (registry : TaskRegistry Task) : List String :=
  (registry.entries.map Prod.fst).mergeSort fun a b => a ≤ b

end TaskRegistry

end DeviceRig
