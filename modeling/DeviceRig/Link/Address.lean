import DeviceRig.Link.Error
import DeviceRig.System.FileTree
import DeviceRig.Text.Blank
import DeviceRig.Text.Natural

/-!
Link addresses: a socket is written `unix:<path>`, a serial line `<path>@<baud>`, or as its path
alone at the usual rate. Two addresses are the same if their paths have the same components.
-/
namespace DeviceRig

inductive LinkAddress where
  | serial (path : String) (baudRate : Nat)
  | socket (path : String)
deriving DecidableEq, Repr, Inhabited

namespace LinkAddress

def defaultBaudRate : Nat := 115200

def path : LinkAddress → String
  | .serial path _ | .socket path => path

def medium : LinkAddress → Medium
  | .serial .. => .serial
  | .socket _ => .socket

def socketMark : List Char := ['u', 'n', 'i', 'x', ':']

def splitAtSign (text : List Char) : Option (List Char × List Char) :=
  let baud := text.reverse.takeWhile (· ≠ '@')
  match text.reverse.drop baud.length with
  | [] => none
  | _ :: path => some (path.reverse, baud.reverse)

def ofTrimmed (text : List Char) : Except LinkError LinkAddress :=
  let invalid := .error (.invalidAddress (String.ofList text))
  if text.isEmpty then invalid
  else if socketMark.isPrefixOf text then
    let path := text.drop socketMark.length
    if path.isEmpty then invalid else .ok (.socket (String.ofList path))
  else
    match splitAtSign text with
    | none => .ok (.serial (String.ofList text) defaultBaudRate)
    | some (path, baud) =>
      match Text.naturalChars Text.wordLimit baud with
      | .ok rate => .ok (.serial (String.ofList path) rate)
      | .error _ => invalid

def parse (text : String) : Except LinkError LinkAddress :=
  ofTrimmed (Text.trimChars text.toList)

def display : LinkAddress → String
  | .serial path baudRate => s!"{path}@{baudRate}"
  | .socket path => s!"unix:{path}"

/-- What is left of a path without empty and single-dot components, except a dot that starts it.
The first part tells whether the path is absolute. -/
def components (path : String) : Bool × List String :=
  let parts := FileTree.pieces path
  let absolute := FileTree.isAbsolute path
  let kept := parts.filter fun part => part ≠ "" && part ≠ "."
  (absolute, if !absolute && parts.head? = some "." then "." :: kept else kept)

def same : LinkAddress → LinkAddress → Bool
  | .serial path baudRate, .serial other otherRate =>
    components path = components other && baudRate = otherRate
  | .socket path, .socket other => components path = components other
  | _, _ => false

end LinkAddress

end DeviceRig
