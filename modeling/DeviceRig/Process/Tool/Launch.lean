import DeviceRig.Process.Shell.Naming
import DeviceRig.Process.Tool.Basic

/-!
Tools that wait, tell about their surroundings, or run other programs: with another environment, for
a limited time, with arguments that are read, or as the commands of a script.
-/
namespace DeviceRig.Shell.Tool

open Script

/-! Shells -/

def defaultPath : String := "/usr/local/sbin:/usr/local/bin:/usr/sbin:/usr/bin:/sbin:/bin"

def setShellVariables : Script Unit := do
  let process ← process
  let put (name : String) (value : ByteText) : Script Unit := do
    let exported := (process.bindings.lookup name).any Variable.exported
    putVariable name (some ⟨some value, exported, false⟩)
  put "IFS" " \t\n".toList
  put "PS1" "# ".toList
  put "PS2" "> ".toList
  put "PS4" "+ ".toList
  put "PPID" (toString process.parent).toList
  putVariable "PWD" (some ⟨some (ByteText.ofString process.directory), true, false⟩)
  put optionVariable ['1']
  if (process.bindings.lookup "PATH").isNone then put "PATH" defaultPath.toList

def shell : Tool := fun runner arguments => do
  setShellVariables
  let steps := arguments.flatten.length + arguments.length + 1
  let (rest, _, takesScript) ← Builtin.setOptions true steps arguments
  let readsInput ← hasOption 's'
  let finish (name : Option ByteText) (arguments : List ByteText) (body : Script Unit) :
      Script Nat := do
    modifyProcess fun process => { process with name := name.getD process.name, arguments }
    asShell runner body
    status
  match takesScript, rest with
  | true, [] => fail "-c requires an argument"
  | true, script :: rest => finish rest.head? (rest.drop 1) (runner.text .plain script)
  | false, path :: rest =>
    if readsInput then
      let text := (← readAll 0).toOption.getD []
      finish none (path :: rest) (runner.text .plain text)
    else
      match (← get).files.readFile (← pathOf path) with
      | .ok content => finish (some path) rest (runner.text .plain (ByteText.ofBytes content))
      | .error fault => fail (openMessage .read path fault)
  | false, [] =>
    let text := (← readAll 0).toOption.getD []
    finish none [] (runner.text .plain text)

/-! Surroundings -/

def environmentLines : Script (List ByteText) := do
  return (← process).bindings.reverse.filterMap fun (name, found) =>
    if found.exported then found.value.map fun value => name.toList ++ '=' :: value else none

def printEnvironment : Tool := fun _ arguments => do
  if arguments.isEmpty then
    say (unlines (← environmentLines))
    return 0
  else
    let mut result := 0
    for name in arguments do
      match ← lookUp? (String.ofList name) with
      | some ⟨some value, true, _⟩ => say (value ++ ['\n'])
      | _ => result := 1
    return result

def turnInto (command : String) (runner : Runner) (words : List ByteText) : Script Nat := do
  match ← findExecutable (words.headD []) with
  | .error fault =>
    let name := (words.headD []).toText
    warn command (if command = "env" then s!"'{name}': {fault.reason}"
      else s!"failed to run command '{name}': {fault.reason}")
    return if fault = .noSuchFile || fault = .notADirectory then 127 else 126
  | .ok _ =>
    runner.program words
    status

def runInEnvironment : Tool := fun runner arguments =>
  withLeadingOptions "env" "iu:C:0vS:" [("ignore-environment", 'i'), ("unset", 'u'), ("chdir", 'C')]
      125 arguments fun given => do
    let operands := if given.operands.head? = some ['-'] then given.operands.drop 1
      else given.operands
    if given.has 'i' || given.operands.head? = some ['-'] then
      modifyProcess fun process => { process with bindings := [] }
    for (letter, value) in given.letters do
      if letter = 'u' then putVariable (String.ofList value) none
    let assigned := operands.takeWhile fun word => word.contains '='
    for word in assigned do
      let (name, value) := Builtin.nameAndValue word
      putVariable (String.ofList name) (some ⟨some (value.getD []), true, false⟩)
    if let some directory := given.value? 'C' then
      let path ← pathOf directory
      if (← get).files.isDirectory path then
        modifyProcess fun process => { process with directory := path }
      else
        warn "env" s!"cannot change directory to '{directory.toText}': No such file or directory"
        throw .failed
    match operands.drop assigned.length with
    | [] =>
      say (unlines (← environmentLines))
      return 0
    | words => turnInto "env" runner words

def answering (text : String) : Tool := fun _ _ => do
  sayLine text
  return 0

def identity : Tool := fun _ arguments => do
  let letters := (arguments.filter fun argument => argument.head? = some '-').flatten
  if letters.contains 'n' then sayLine "root"
  else if letters.any fun c => c = 'u' || c = 'g' || c = 'G' then sayLine "0"
  else sayLine "uid=0(root) gid=0(root) groups=0(root)"
  return 0

def systemName : Tool := fun _ arguments => do
  let letters := arguments.flatten
  if letters.contains 'm' then sayLine "x86_64" else sayLine "Linux"
  return 0

def locatePrograms : Tool := fun _ arguments => do
  let mut result := 0
  for name in arguments do
    match ← findExecutable name with
    | .ok found => sayLine found.path
    | .error _ => result := 1
  return result

/-! Time -/

/-- A span of time in seconds, or in the unit of a letter behind it, in nanoseconds. -/
def spanOf? (text : ByteText) : Option Nat :=
  let whole := text.takeWhile isDigit
  let behind := text.drop whole.length
  let places := match behind with
    | '.' :: rest => rest.takeWhile isDigit
    | _ => []
  let unit := match behind with
    | '.' :: rest => rest.drop places.length
    | _ => behind
  let scale? : Option Nat := match unit with
    | [] | ['s'] => some 1
    | ['m'] => some 60
    | ['h'] => some 3600
    | ['d'] => some 86400
    | _ => none
  let digits := whole ++ (places.take 9) ++ List.replicate (9 - places.length) '0'
  if whole.isEmpty && places.isEmpty then none
  else scale?.map fun scale => (Calculation.digitsIn 10 digits).1 * scale

def sleep : Tool := fun runner arguments => do
  let operands := if arguments.head? = some ['-', '-'] then arguments.drop 1 else arguments
  if operands.isEmpty then
    warn "sleep" "missing operand"
    return 1
  else if operands.any fun word => word = "infinity".toList || word = "inf".toList then
    catchUpTo runner (← get).horizon
    passUntil none
    return 0
  else
    match operands.find? fun word => (spanOf? word).isNone with
    | some wrong =>
      warn "sleep" s!"invalid time interval '{wrong.toText}'"
      return 1
    | none =>
      let moment := (← get).now + (operands.filterMap spanOf?).foldl (· + ·) 0
      catchUpTo runner moment
      passUntil (some moment)
      return 0

def runChild (runner : Runner) (pid : Nat) (words : List ByteText) : Script ExitStatus := do
  let child := childOf (← process) pid
  match ← runAs child (runner.program words) with
  | some ending =>
    passUntil (some (← get).now)
    return ending
  | none =>
    passUntil none
    return .ofCode 0

def runForTime : Tool := fun runner arguments =>
  withLeadingOptions "timeout" "s:k:pfv" [("signal", 's'), ("kill-after", 'k'),
      ("preserve-status", 'p'), ("foreground", 'f')] 125 arguments fun given => do
    match given.operands with
    | span :: words =>
      let signal? := match given.value? 's' with
        | some name => (Jobs.signalOf? 1 name).orElse fun _ =>
            Jobs.signalOf? 1 (if "SIG".toList.isPrefixOf name then name.drop 3 else name)
        | none => some Signal.terminate
      match spanOf? span, signal?, words with
      | none, _, _ =>
        warn "timeout" s!"invalid time interval '{span.toText}'"
        return 125
      | _, none, _ =>
        warn "timeout" "invalid signal"
        return 125
      | some _, some _, [] => return 125
      | some span, some signal, words =>
        match ← findExecutable (words.headD []) with
        | .error _ => turnInto "timeout" runner words
        | .ok _ =>
          let pid ← newPid
          let start := (← get).now
          let deadline := start + span
          let kills := ((given.value? 'k').bind spanOf?).map fun span => deadline + span
          let timers : List SentSignal := if span = 0 then [] else
            [⟨pid, deadline, signal⟩] ++ match kills with
              | some time => [⟨pid, time, Signal.kill⟩]
              | none => []
          modify fun machine => { machine with signals := machine.signals ++ timers }
          let ending ← runChild runner pid words
          modify fun machine =>
            { machine with signals := machine.signals.filter fun signal => signal.target ≠ pid }
          let isOver := span ≠ 0 && deadline ≤ (← get).now
          if isOver && !given.has 'p' then
            return if ending.signal? = some Signal.kill then 128 + Signal.kill else 124
          else return statusOf ending
    | [] => return 125

/-! Arguments that are read -/

def quotedWords (current : Option ByteText) : ByteText → List ByteText
  | [] => current.toList.map List.reverse
  | c :: rest =>
    let started := current.getD []
    if c = ' ' || c = '\t' || c = '\n' then
      current.toList.map List.reverse ++ quotedWords none rest
    else if c = '\\' then
      match rest with
      | next :: rest => quotedWords (some (next :: started)) rest
      | [] => quotedWords (some started) []
    else if c = '\'' || c = '"' then quotedIn c started rest
    else quotedWords (some (c :: started)) rest
where
  quotedIn (quote : Char) (started : ByteText) : ByteText → List ByteText
    | [] => [started.reverse]
    | c :: rest =>
      if c = quote then quotedWords (some started) rest else quotedIn quote (c :: started) rest

def inGroups (size : Nat) : Nat → List ByteText → List (List ByteText)
  | 0, _ => []
  | count + 1, items =>
    if items.isEmpty then [] else items.take size :: inGroups size count (items.drop size)

def replaced (wanted value : ByteText) : Nat → ByteText → ByteText
  | 0, text => text
  | _ + 1, [] => []
  | count + 1, c :: rest =>
    if wanted.isPrefixOf (c :: rest) && !wanted.isEmpty then
      value ++ replaced wanted value count ((c :: rest).drop wanted.length)
    else c :: replaced wanted value count rest

def runWithArguments : Tool := fun runner arguments =>
  withLeadingOptions "xargs" "n:I:0rd:P:L:tx" [("max-args", 'n'), ("null", '0'),
      ("no-run-if-empty", 'r')] 1 arguments fun given => do
    let command := if given.operands.isEmpty then ["echo".toList] else given.operands
    let text := (← readAll 0).toOption.getD []
    let items : List ByteText :=
      if given.has '0' then ((linesOf (text.map fun c => if c = '\x00' then '\n' else c)))
      else if given.has 'I' then
        ((linesOf text).map fun line => line.dropWhile isBlank).filter fun line => !line.isEmpty
      else match given.value? 'd' with
        | some delimiter =>
          linesOf (text.map fun c => if delimiter.head? = some c then '\n' else c)
        | none => quotedWords none text
    let size := ((given.value? 'n').bind natural?).getD (max 1 items.length)
    let calls : List (List ByteText) := match given.value? 'I' with
      | some mark => items.map fun item =>
          command.map fun word => replaced mark item (word.length + 1) word
      | none =>
        if items.isEmpty then if given.has 'r' then [] else [command]
        else (inGroups (max 1 size) items.length items).map fun group => command ++ group
    let nothing ← newChannel .nothing
    setDescriptor 0 (some nothing)
    let mut result := 0
    for words in calls do
      match ← findExecutable (words.headD []) with
      | .error fault =>
        warn "xargs" s!"{(words.headD []).toText}: {fault.reason}"
        return if fault = .noSuchFile then 127 else 126
      | .ok _ =>
        let ending ← runChild runner (← newPid) words
        match ending.code? with
        | some 0 => pure ()
        | some 255 =>
          warn "xargs" s!"{(words.headD []).toText}: exited with status 255; aborting"
          return 124
        | some _ => result := 123
        | none => return 125
    return result

/-! The commands of the shell as programs -/

def echoOptions : List ByteText → Bool × Bool × List ByteText
  | ('-' :: c :: letters) :: rest =>
    if (c :: letters).all fun c => c = 'n' || c = 'e' || c = 'E' then
      let (feeds, escapes, words) := echoOptions rest
      let escapes := match ((c :: letters).filter (· ≠ 'n')).getLast? with
        | some last => escapes || last = 'e'
        | none => escapes
      (feeds && !(c :: letters).contains 'n', escapes, words)
    else (true, false, ('-' :: c :: letters) :: rest)
  | words => (true, false, words)

def echo : Tool := fun _ arguments => do
  let (feeds, escapes, words) := echoOptions arguments
  let text := [' '].intercalate words
  let (text, stops) := if escapes then unescaped (text.length + 1) text else (text, false)
  say (if feeds && !stops then text ++ ['\n'] else text)
  printed "echo" 0

def printFormat : Tool := fun _ arguments => do
  match arguments.dropWhile (· = ['-', '-']) with
  | [] =>
    warn "printf" "missing operand"
    return 1
  | format :: rest =>
    let result := formatted format rest
    say result.text.toList
    for complaint in result.complaints do warn "printf" complaint
    if let some flaw := result.flaw then warn "printf" flaw
    printed "printf" (if result.complaints.isEmpty && result.flaw.isNone then 0 else 1)

def ofBuiltin (run : Runner → List ByteText → Script Nat) : Tool := fun runner arguments => do
  try run runner arguments catch
    | .failed => return errorStatus
    | stop => throw stop

end DeviceRig.Shell.Tool
