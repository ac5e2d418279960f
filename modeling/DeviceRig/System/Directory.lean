import DeviceRig.System.FileTree

/-!
Work on directories and on what stands in them: their content in order, moving, removing, and the
modes of files.
-/
namespace DeviceRig.FileTree

def childNames (tree : FileTree) (directory : Location) : List String :=
  let names := tree.entries.filterMap fun (location, _) =>
    if location.dropLast = directory && !location.isEmpty then location.getLast? else none
  names.mergeSort fun a b => decide (a ≤ b)

def modifyAt (tree : FileTree) (location : Location) (change : FileEntry → FileEntry) : FileTree :=
  { tree with
    entries := tree.entries.map fun (place, entry) =>
      if place = location then (place, change entry) else (place, entry) }

def setContent (tree : FileTree) (location : Location) (content : List UInt8) : FileTree :=
  tree.modifyAt location fun entry => { entry with node := .regular content }

def setMode (tree : FileTree) (location : Location) (mode : Nat) : FileTree :=
  tree.modifyAt location fun entry => { entry with mode }

def removeDirectory (tree : FileTree) (path : String) : Except Fault FileTree := do
  match ← tree.pathEnd path with
  | ⟨_, none, _⟩ => throw .invalidArgument
  | ⟨directory, some last, _⟩ =>
    let location := directory ++ [last]
    match tree.find? location with
    | none => throw .noSuchFile
    | some entry =>
      if entry.node ≠ .directory then throw .notADirectory
      else if !(tree.childNames location).isEmpty then throw .directoryNotEmpty
      else return tree.erase location

def isWithin (directory location : Location) : Bool :=
  directory.isPrefixOf location

def removeAll (tree : FileTree) (location : Location) : FileTree :=
  { tree with entries := tree.entries.filter fun entry => !isWithin location entry.1 }

/-- Moves a node, with everything below it, to where nothing or something of its kind is. -/
def move (tree : FileTree) (source target : Location) : Except Fault FileTree :=
  match tree.find? source, tree.find? target with
  | none, _ => .error .noSuchFile
  | some entry, found =>
    let isDirectory := entry.node = .directory
    let blocked : Option Fault := match found with
      | none => none
      | some other =>
        if isDirectory && other.node ≠ .directory then some .notADirectory
        else if !isDirectory && other.node = .directory then some .isADirectory
        else if isDirectory && !(tree.childNames target).isEmpty then some .directoryNotEmpty
        else none
    if source = target then .ok tree
    else
      match blocked with
      | some fault => .error fault
      | none =>
        if isWithin source target then .error .invalidArgument
        else
          let entries := (tree.removeAll target).entries.map fun (place, entry) =>
            if isWithin source place then (target ++ place.drop source.length, entry)
            else (place, entry)
          .ok { tree with entries }

end DeviceRig.FileTree
