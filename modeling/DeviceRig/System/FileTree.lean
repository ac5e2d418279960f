import DeviceRig.System.Fault

/-!
Files by path. Every node has a number of its own, which no later node takes over, and a mode. A
path is followed component by component: symbolic links on the way are always followed, one at its
end only if asked, and no more than forty in all. What creates or removes a node looks at the
directory first and then at the last part of the path by itself.
-/
namespace DeviceRig

inductive Device where
  | null
  | endless
  | full
  | ownTerminal
deriving DecidableEq, Repr, Inhabited

inductive FileNode where
  | regular (content : List UInt8)
  | directory
  | symlink (target : String)
  | socket
  | terminal
  | device (device : Device)
deriving DecidableEq, Repr, Inhabited

structure FileEntry where
  node : FileNode
  inode : Nat
  mode : Nat
deriving DecidableEq, Repr, Inhabited

abbrev Location := List String

structure FileTree where
  entries : List (Location × FileEntry)
  nextInode : Nat
deriving DecidableEq, Repr, Inhabited

namespace Fault

def noSuchFile : Fault := .system 2

def ioError : Fault := .system 5

def noSuchDevice : Fault := .system 6

def badDescriptor : Fault := .system 9

def permissionDenied : Fault := .system 13

def fileExists : Fault := .system 17

def notADirectory : Fault := .system 20

def isADirectory : Fault := .system 21

def invalidArgument : Fault := .system 22

def notATerminal : Fault := .system 25

def noSpaceLeft : Fault := .system 28

def brokenPipe : Fault := .system 32

def nameTooLong : Fault := .system 36

def directoryNotEmpty : Fault := .system 39

def tooManyLevels : Fault := .system 40

def addressInUse : Fault := .system 98

def connectionReset : Fault := .system 104

def connectionRefused : Fault := .system 111

/-- What is said to a path that has the byte in it that ends one. -/
def nulInPath : Fault := .worded .invalidInput "file name contained an unexpected NUL byte"

end Fault

namespace FileTree

def find? (tree : FileTree) (location : Location) : Option FileEntry :=
  if location.isEmpty then some ⟨.directory, 0, 0o755⟩ else tree.entries.lookup location

def erase (tree : FileTree) (location : Location) : FileTree :=
  { tree with entries := tree.entries.filter fun entry => entry.1 ≠ location }

def create (tree : FileTree) (location : Location) (node : FileNode) (mode : Nat) : FileTree :=
  { entries := (location, ⟨node, tree.nextInode, mode⟩) :: (tree.erase location).entries
    nextInode := tree.nextInode + 1 }

def pieces (path : String) : List String :=
  (path.toList.splitOn '/').map String.ofList

def names (path : String) : List String :=
  (pieces path).filter (· ≠ "")

/-- The parts of a path that lead anywhere. A path that ends in a slash or a dot leads to a
directory, for which a dot stays at its end. -/
def parts (path : String) : List String :=
  let named := (names path).filter (· ≠ ".")
  let last := (pieces path).getLast?.getD ""
  if (last = "" || last = ".") && !named.isEmpty then named ++ ["."] else named

def maxNameLength : Nat := 255

def maxPathLength : Nat := 4096

def maxLinks : Nat := 40

def isAbsolute (path : String) : Bool := path.toList.head? = some '/'

/-- Follows the parts of a path from a directory up to the first symbolic link, with which and the
parts left `onLink` deals. -/
def stepAlong (tree : FileTree) (follow : Bool)
    (onLink : Location → List String → Except Fault Location) (here : Location) :
    List String → Except Fault Location
  | [] => .ok here
  | part :: rest =>
    if part = ".." then tree.stepAlong follow onLink here.dropLast rest
    else if part = "." then tree.stepAlong follow onLink here rest
    else if maxNameLength < part.utf8ByteSize then .error .nameTooLong
    else
      let next := here ++ [part]
      match tree.find? next with
      | none => if rest.isEmpty then .ok next else .error .noSuchFile
      | some entry =>
        match entry.node with
        | .directory => tree.stepAlong follow onLink next rest
        | .symlink target =>
          if rest.isEmpty && !follow then .ok next
          else onLink (if isAbsolute target then [] else here) (parts target ++ rest)
        | _ => if rest.isEmpty then .ok next else .error .notADirectory

/-- Follows the parts of a path from a directory through at most so many symbolic links. -/
def walk (tree : FileTree) (follow : Bool) : Nat → Location → List String → Except Fault Location
  | 0, here, path => tree.stepAlong follow (fun _ _ => .error .tooManyLevels) here path
  | links + 1, here, path => tree.stepAlong follow (tree.walk follow links) here path

def hasNul (path : String) : Bool := path.toList.contains '\x00'

def pathFault? (path : String) : Option Fault :=
  if hasNul path then some .nulInPath
  else if path.isEmpty then some .noSuchFile
  else if maxPathLength ≤ path.utf8ByteSize then some .nameTooLong
  else none

def locate (tree : FileTree) (follow : Bool) (path : String) : Except Fault Location :=
  match pathFault? path with
  | some fault => .error fault
  | none => tree.walk follow maxLinks [] (parts path)

def entryAt (tree : FileTree) (follow : Bool) (path : String) :
    Except Fault (Location × FileEntry) := do
  let location ← tree.locate follow path
  match tree.find? location with
  | some entry => return (location, entry)
  | none => throw .noSuchFile

def exists? (tree : FileTree) (path : String) : Bool :=
  (tree.entryAt true path).isOk

def readFile (tree : FileTree) (path : String) : Except Fault (List UInt8) := do
  let (_, entry) ← tree.entryAt true path
  match entry.node with
  | .regular content => return content
  | .directory => throw .isADirectory
  | .socket | .device .ownTerminal => throw .noSuchDevice
  | .symlink _ | .terminal | .device _ => return []

/-- A path taken apart: the directory that its last part is in, that part, and whether slashes
follow it. A last part that is no name of its own is left out. -/
structure PathEnd where
  directory : Location
  last : Option String
  slashed : Bool
deriving DecidableEq, Repr

def pathEnd (tree : FileTree) (path : String) : Except Fault PathEnd := do
  if let some fault := pathFault? path then throw fault
  let all := names path
  let directory ← tree.walk true maxLinks [] (all.dropLast ++ ["."])
  let last := all.getLast?.filter fun part => part ≠ "." && part ≠ ".."
  if last.any fun part => maxNameLength < part.utf8ByteSize then throw .nameTooLong
  return ⟨directory, last, (pieces path).getLast? = some ""⟩

/-- Creates a node where nothing is, not even a link that leads nowhere. Slashes may only follow
the name of a directory. -/
def createNew (tree : FileTree) (path : String) (node : FileNode) (mode : Nat) :
    Except Fault FileTree := do
  match ← tree.pathEnd path with
  | ⟨_, none, _⟩ => throw .fileExists
  | ⟨directory, some last, slashed⟩ =>
    let location := directory ++ [last]
    if (tree.find? location).isSome then throw .fileExists
    else if slashed && node ≠ .directory then throw .noSuchFile
    else return tree.create location node mode

def writeFile (tree : FileTree) (path : String) (content : List UInt8) : Except Fault FileTree := do
  let ending ← tree.pathEnd path
  if ending.last.isNone || ending.slashed then throw .isADirectory
  let location ← tree.locate true path
  match tree.find? location with
  | none => return tree.create location (.regular content) 0o644
  | some entry =>
    match entry.node with
    | .regular _ =>
      let entries := (location, { entry with node := .regular content })
        :: (tree.erase location).entries
      return { tree with entries }
    | .directory => throw .isADirectory
    | .socket | .device .ownTerminal => throw .noSuchDevice
    | .device .full => if content.isEmpty then return tree else throw .noSpaceLeft
    | _ => return tree

def isDirectory (tree : FileTree) (path : String) : Bool :=
  match tree.entryAt true path with
  | .ok (_, entry) => entry.node = .directory
  | .error _ => false

/-- The path of the directory that a path is in by its text; none for the root. -/
def parentPath? (path : String) : Option String :=
  match (names path).filter (· ≠ ".") with
  | [] => none
  | named => some ((if isAbsolute path then "/" else "") ++ "/".intercalate named.dropLast)

/-- Makes a directory and, `levels` up at most, those that it needs. One that is there is left. -/
def makeDirectoryWithin (tree : FileTree) (path : String) : Nat → Except Fault FileTree
  | 0 => .error .noSuchFile
  | levels + 1 =>
    if path.isEmpty then .ok tree
    else
      match tree.createNew path .directory 0o755 with
      | .ok made => .ok made
      | .error fault =>
        if fault ≠ .noSuchFile then if tree.isDirectory path then .ok tree else .error fault
        else
          match parentPath? path with
          | none => .error fault
          | some parent =>
            match tree.makeDirectoryWithin parent levels with
            | .error fault => .error fault
            | .ok tree =>
              match tree.createNew path .directory 0o755 with
              | .ok made => .ok made
              | .error fault => if tree.isDirectory path then .ok tree else .error fault

def makeDirectory (tree : FileTree) (path : String) : Except Fault FileTree :=
  tree.makeDirectoryWithin path ((names path).length + 1)

/-- Puts a file at a path, making the directories on the way; what cannot be made is left out. -/
def placeFile (tree : FileTree) (path : String) (content : List UInt8) : FileTree :=
  let tree := match parentPath? path with
    | some parent => (tree.makeDirectory parent).toOption.getD tree
    | none => tree
  (tree.writeFile path content).toOption.getD tree

def makeLink (tree : FileTree) (path target : String) : Except Fault FileTree := do
  if let some fault := pathFault? target then throw fault
  tree.createNew path (.symlink target) 0o777

def makeTerminal (tree : FileTree) (path : String) : Except Fault FileTree :=
  tree.createNew path .terminal 0o620

/-- Removes what a path leads to, or the link at its end, unless it is a directory. -/
def removeFile (tree : FileTree) (path : String) : Except Fault FileTree := do
  match ← tree.pathEnd path with
  | ⟨_, none, _⟩ => throw .isADirectory
  | ⟨directory, some last, slashed⟩ =>
    let location := directory ++ [last]
    match tree.find? location with
    | none => throw .noSuchFile
    | some entry =>
      if entry.node = .directory then throw .isADirectory
      else if slashed then throw .notADirectory
      else return tree.erase location

def usualDirectories : List Location :=
  [["boot"], ["dev"], ["dev", "mqueue"], ["dev", "pts"], ["dev", "shm"], ["etc"], ["home"],
    ["media"], ["mnt"], ["opt"], ["proc"], ["root"], ["run"], ["run", "lock"], ["srv"], ["sys"],
    ["tmp"], ["usr"], ["usr", "bin"], ["usr", "lib"], ["usr", "lib64"], ["usr", "local"],
    ["usr", "local", "bin"], ["usr", "local", "lib"], ["usr", "sbin"], ["usr", "share"], ["var"],
    ["var", "cache"], ["var", "lib"], ["var", "log"], ["var", "spool"], ["var", "tmp"]]

def usualDevices : List (String × Device) :=
  [("full", .full), ("null", .null), ("random", .endless), ("tty", .ownTerminal),
    ("urandom", .endless), ("zero", .endless)]

def usualLinks : List (Location × String) :=
  [(["bin"], "usr/bin"), (["lib"], "usr/lib"), (["lib64"], "usr/lib64"), (["sbin"], "usr/sbin"),
    (["var", "lock"], "/run/lock"), (["var", "run"], "/run")]

def openDirectories : List Location := [["dev", "shm"], ["tmp"], ["var", "tmp"]]

/-- A tree with the directories, devices and links that every system has. -/
def bare : FileTree :=
  let withDirectories := usualDirectories.foldl (fun tree location =>
    tree.create location .directory (if openDirectories.contains location then 0o1777 else 0o755))
    ⟨[], 1⟩
  let withDevices := usualDevices.foldl (fun tree (name, device) =>
    tree.create ["dev", name] (.device device) 0o666) withDirectories
  usualLinks.foldl (fun tree (location, target) =>
    tree.create location (.symlink target) 0o777) withDevices

end FileTree

end DeviceRig
