import DeviceRig.Process.Shell.Run

/-!
Programs. A program is a file that may be run: one of the tools that every system has, or a script.
A name without slashes is looked for in the directories of a variable.
-/
namespace DeviceRig.Shell

abbrev Tool := Runner → List ByteText → Script Nat

def toolImage : List UInt8 := [0x7f, 0x45, 0x4c, 0x46, 2, 1, 1, 0]

structure Executable where
  path : String
  location : Location
  content : List UInt8
deriving Inhabited

namespace Executable

def isTool (executable : Executable) : Bool :=
  toolImage.isPrefixOf executable.content

def interpreter (executable : Executable) : List ByteText :=
  match ByteText.ofBytes executable.content with
  | '#' :: '!' :: rest =>
    let line := (rest.takeWhile (· ≠ '\n')).dropWhile isBlank
    let program := line.takeWhile fun c => !isBlank c
    let argument := (line.drop program.length).dropWhile isBlank
    let argument := (argument.reverse.dropWhile isBlank).reverse
    if argument.isEmpty then [program] else [program, argument]
  | _ => ["/bin/sh".toList]

end Executable

namespace Script

def executableAt (path : String) : Script (Except Fault Executable) := do
  match (← get).files.entryAt true (← pathOf (ByteText.ofString path)) with
  | .error fault => return .error fault
  | .ok (location, ⟨.regular content, _, mode⟩) =>
    if mode &&& 0o111 = 0 then return .error .permissionDenied
    else return .ok ⟨path, location, content⟩
  | .ok _ => return .error .permissionDenied

def searchPath : Script (List String) := do
  return ((← valueOf? "PATH").getD []).toText.splitOn ":"

/-- Looks for a program in directories; one that may not be run is the answer if no other is. -/
def searchIn (name : String) (refused : Fault) : List String → Script (Except Fault Executable)
  | [] => return .error refused
  | directory :: rest => do
    let path := if directory.isEmpty then name else directory ++ "/" ++ name
    match (← get).files.entryAt true (← pathOf (ByteText.ofString path)) with
    | .ok (_, ⟨.regular _, _, _⟩) =>
      match ← executableAt path with
      | .ok found => return .ok found
      | .error fault => searchIn name fault rest
    | _ => searchIn name refused rest

def findExecutable (name : ByteText) : Script (Except Fault Executable) := do
  if name.contains '/' then executableAt name.toText
  else if name.isEmpty then return .error .noSuchFile
  else
    match ← searchPath with
    | [""] => return .error .noSuchFile
    | directories => searchIn name.toText .noSuchFile directories

def refusalStatus (fault : Fault) : Nat :=
  if [Fault.noSuchFile, .notADirectory, .nameTooLong, .tooManyLevels].contains fault then 127
  else 126

def refusalReason (fault : Fault) : String :=
  if fault = .noSuchFile || fault = .notADirectory then "not found" else fault.reason

/-- The process as a program finds it: variables that are not exported, functions, options, actions
of signals and the list of jobs are gone. -/
def asProgram (process : Process) (name : ByteText) : Process :=
  { process with
    name
    root := process.pid
    latestJob := none
    functions := []
    aliases := []
    options := []
    bindings := process.bindings.filterMap fun (name, found) =>
      if found.exported && found.value.isSome then some (name, { found with readOnly := false })
      else none
    unreachable := (process.traps.filter fun entry => entry.2.isEmpty).map Prod.fst ++
      process.unreachable
    traps := []
    caught := []
    loops := 0
    calls := 0
    locals := [] }

/-- Turns the process into a program. It ends with that, also if there is no such program. -/
def become (tools : List (String × Tool)) (runner : Runner) (words : List ByteText) :
    Script Unit := do
  let name := words.headD []
  let arguments := words.drop 1
  match ← findExecutable name with
  | .error fault =>
    complain s!"{name.toText}: {refusalReason fault}"
    setStatus (refusalStatus fault)
  | .ok executable =>
    modifyProcess fun process => asProgram process name
    if executable.isTool then
      pass programTime
      match tools.lookup (executable.location.getLast?.getD "") with
      | some tool => setStatus (← tool runner arguments)
      | none => setStatus 126
    else
      runner.program
        (executable.interpreter ++ [ByteText.ofString executable.path] ++ arguments)
  throw .exiting

end Script

end DeviceRig.Shell
