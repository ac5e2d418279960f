import DeviceRig.Link.Error
import DeviceRig.System.FileTree

/-!
Listening on socket paths. Binding removes the socket at its path, whether or not somebody listens
there, and refuses to touch any other file; the new socket is for its owner only. Dropping a
listener removes its path only if the socket there is still the one that it created.
-/
namespace DeviceRig

structure Listener where
  path : String
  inode : Nat
deriving DecidableEq, Repr, Inhabited

namespace Listener

/-- The longest path that fits a socket address, with the byte that ends it. -/
def maxPathLength : Nat := 108

def socketMode : Nat := 0o600

def addressFault? (path : String) : Option Fault :=
  if FileTree.hasNul path then
    some (.worded .invalidInput "paths must not contain interior null bytes")
  else if maxPathLength ≤ path.utf8ByteSize then
    some (.worded .invalidInput "path must be shorter than SUN_LEN")
  else none

/-- Creates a socket at a path where nothing is, not even a link that leads nowhere. -/
def bindSocket (tree : FileTree) (path : String) : Except Fault (Nat × FileTree) := do
  if let some fault := addressFault? path then throw fault
  match tree.createNew path .socket socketMode with
  | .ok bound => return (tree.nextInode, bound)
  | .error fault => throw (if fault = .fileExists then .addressInUse else fault)

def clearPath (tree : FileTree) (path : String) : Except Fault FileTree := do
  if tree.exists? path then
    let (location, entry) ← tree.entryAt false path
    if entry.node = .socket then return tree.erase location
    else throw (.worded .alreadyExists "existing path is not a unix socket")
  else return tree

def bind (tree : FileTree) (path : String) : Except LinkError (Listener × FileTree) :=
  if maxPathLength ≤ path.utf8ByteSize then
    .error (.pathTooLong path path.utf8ByteSize maxPathLength)
  else
    match clearPath tree path with
    | .error fault => .error (.notBound path fault)
    | .ok cleared =>
      match bindSocket cleared path with
      | .error fault => .error (.notBound path fault)
      | .ok (inode, bound) => .ok (⟨path, inode⟩, bound)

def drop (tree : FileTree) (listener : Listener) : FileTree :=
  match tree.entryAt false listener.path with
  | .ok (location, entry) =>
    if entry.node = .socket ∧ entry.inode = listener.inode then tree.erase location else tree
  | .error _ => tree

end Listener

namespace FileTree

/-- The number of the socket that a connection to a path reaches. -/
def socketAt (tree : FileTree) (path : String) : Except Fault Nat := do
  if let some fault := Listener.addressFault? path then throw fault
  if path.isEmpty then throw .invalidArgument
  let (_, entry) ← tree.entryAt true path
  if entry.node = .socket then return entry.inode else throw .connectionRefused

end FileTree

end DeviceRig
