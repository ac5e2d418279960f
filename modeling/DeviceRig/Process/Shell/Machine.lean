import DeviceRig.Process.Shell.Reading
import DeviceRig.Process.Signal
import DeviceRig.System.Directory

/-!
The machine that scripts run on: a clock, files, open channels, signals on their way, the processes
in the background, and the process that runs. Processes run one after another, each on a clock of
its own; whatever is written carries its time, so that a reader knows when it came. Time passes in
one place, which is where signals arrive.
-/
namespace DeviceRig.Shell

inductive Channel where
  | nothing
  | full
  | zeros
  /-- Texts with the times from which they can be read, and when no more can follow, if ever. -/
  | source (pieces : List (Nat × ByteText)) (endsAt : Option Nat)
  /-- Texts with the times at which they were written, and how long they are. What is too much is
  lost if somebody reads on, and breaks the channel otherwise. -/
  | sink (pieces : Array (Nat × ByteText)) (size : Nat) (isRead : Bool)
  | file (location : Location) (offset : Nat) (mode : OpenMode)
  | directory
deriving Inhabited

structure Variable where
  value : Option ByteText
  exported : Bool
  readOnly : Bool
deriving DecidableEq, Repr, Inhabited

structure Process where
  pid : Nat
  parent : Nat
  ancestors : List Nat
  root : Nat
  name : ByteText
  arguments : List ByteText
  bindings : List (String × Variable)
  functions : List (String × Command)
  aliases : List (String × ByteText)
  options : List Char
  /-- What signals run, and nothing for those that are ignored; zero stands for the end. -/
  traps : List (Nat × ByteText)
  unreachable : List Nat
  descriptors : List (Nat × Nat)
  directory : String
  mask : Nat
  status : Nat
  latestJob : Option Nat
  caught : List Nat
  interrupted : Option Nat
  reapedAt : Nat
  loops : Nat
  calls : Nat
  locals : List (List (String × Option Variable))
  /-- Where the reading of options is: the argument, and the letter within it. -/
  optionPlace : Nat × Nat
  substituted : Option Nat
deriving Inhabited

structure SentSignal where
  target : Nat
  time : Nat
  signal : Nat
deriving DecidableEq, Repr, Inhabited

structure Ending where
  time : Nat
  status : ExitStatus
deriving DecidableEq, Repr, Inhabited

structure Manner where
  tested : Bool
  /-- Nothing follows it, so that its process may turn into what it starts. -/
  final : Bool
deriving DecidableEq, Repr, Inhabited

namespace Manner

def plain : Manner := ⟨false, false⟩

def test : Manner := ⟨true, false⟩

def last : Manner := ⟨false, true⟩

def followed (manner : Manner) : Manner := { manner with final := false }

end Manner

structure PendingCommand where
  command : Command
  manner : Manner
  /-- Whether the command before it has to succeed or to fail, if it depends on that. -/
  condition : Option Bool
deriving Inhabited

inductive Expectation where
  | unknown
  | within (time : Nat)
  | never
deriving DecidableEq, Repr, Inhabited

/-- A process in the background. Its commands are run one by one on a clock of its own, when time
has come for them or something depends on it. -/
structure Job where
  number : Nat
  process : Process
  size : Nat
  pending : List PendingCommand
  now : Nat
  expected : Expectation
  /-- Its end, which is nothing as long as it has not come, and no end if it never comes. -/
  ending : Option (Option Ending)
  isBusy : Bool
  waited : Bool
  isForgotten : Bool
deriving Inhabited

structure Machine where
  now : Nat
  horizon : Nat
  steps : Nat
  files : FileTree
  channels : Array Channel
  signals : List SentSignal
  jobs : List Job
  nextPid : Nat
  documents : Array Word
  printFailed : Bool
  process : Process
deriving Inhabited

inductive Stop where
  | leaving (levels : Nat) (again : Bool)
  | returning
  | failed
  | exiting
  | ended (status : ExitStatus)
  | endless
deriving DecidableEq, Repr, Inhabited

abbrev Script := ExceptT Stop (StateM Machine)

/-- What runs commands and scripts that stand within others, and turns a process into a program
that is named by the first of some words. -/
structure Runner where
  command : Manner → Command → Script Unit
  text : Manner → ByteText → Script Unit
  program : List ByteText → Script Unit

namespace Script

def process : Script Process := return (← get).process

def modifyProcess (change : Process → Process) : Script Unit :=
  modify fun machine => { machine with process := change machine.process }

def status : Script Nat := return (← get).process.status

def setStatus (status : Nat) : Script Unit :=
  modifyProcess fun process => { process with status }

/-! Signals and time -/

inductive Reception where
  | nothing
  | caught
  | ends
  | stops
deriving DecidableEq, Repr

def reception (process : Process) (signal : Nat) : Reception :=
  let byDefault := match Signal.defaultAction signal with
    | .ends => .ends
    | .stops => .stops
    | .nothing => .nothing
  if !Signal.isCatchable signal then byDefault
  else if process.unreachable.contains signal then .nothing
  else
    match process.traps.lookup signal with
    | some [] => .nothing
    | some _ => .caught
    | none => byDefault

/-- Keeps a signal in mind until its action is run; a second of its kind adds nothing. -/
def catchSignal (signal : Nat) : Script Unit :=
  modifyProcess fun process =>
    if process.caught.contains signal then process
    else { process with caught := process.caught ++ [signal] }

def earliest? (signals : List SentSignal) : Option SentSignal :=
  signals.foldl (fun found signal =>
    match found with
    | some first => if signal.time < first.time then some signal else some first
    | none => some signal) none

def nextSignal? (machine : Machine) (moment : Option Nat) : Option SentSignal :=
  if machine.signals.isEmpty then none
  else earliest? (machine.signals.filter fun signal =>
    signal.target = machine.process.pid && moment.all fun moment => signal.time ≤ moment)

/-- The signals to a process that was stopped until a moment. Those that came before wait for it and
are met in the order of their numbers. -/
def afterStop (target moment : Nat) (signals : List SentSignal) : List SentSignal :=
  let isHeld (signal : SentSignal) : Bool := signal.target = target && signal.time < moment
  let held := (signals.filter isHeld).map fun signal => { signal with time := moment }
  held.mergeSort (fun a b => decide (a.signal ≤ b.signal)) ++
    signals.filter fun signal => !isHeld signal

/-- Lets a signal take effect on the running process. A process that is stopped stays so until it
is resumed or killed, and meets all other signals thereafter. -/
def meet (signal : SentSignal) : Script Unit := do
  modify fun machine => { machine with signals := machine.signals.erase signal }
  let machine ← get
  match reception machine.process signal.signal with
  | .nothing => pure ()
  | .caught =>
    catchSignal signal.signal
  | .ends =>
    set { machine with now := signal.time }
    throw (.ended (.ofSignal signal.signal))
  | .stops =>
    let wakes := machine.signals.filter fun other =>
      other.target = signal.target && signal.time ≤ other.time &&
        (other.signal = Signal.resume || other.signal = Signal.kill)
    match earliest? wakes with
    | none => throw .endless
    | some wake =>
      let now := max machine.now wake.time
      if wake.signal = Signal.kill then
        set { machine with now }
        throw (.ended (.ofSignal Signal.kill))
      set { machine with now, signals := afterStop signal.target wake.time machine.signals }

/-- Lets all signals to the running process up to a moment take effect, and those up to its going
on if it was stopped beyond the moment. -/
def meetSignals (moment : Option Nat) : Nat → Script Unit
  | 0 => pure ()
  | count + 1 => do
    let machine ← get
    match nextSignal? machine (moment.map (max machine.now)) with
    | none => pure ()
    | some signal =>
      meet signal
      meetSignals moment count

def passUntil (moment : Option Nat) : Script Unit := do
  let machine ← get
  if !machine.signals.isEmpty then meetSignals moment machine.signals.length
  match moment with
  | none => throw .endless
  | some moment =>
    let machine ← get
    let now := max machine.now moment
    if machine.horizon < now then throw .endless
    set { machine with now }

def pass (nanoseconds : Nat) : Script Unit := do
  passUntil (some ((← get).now + nanoseconds))

def maxSteps : Nat := 1000000

def quickSteps : Nat := 400000

def commandTime (steps : Nat) : Nat := if steps < quickSteps then 2000 else 20000

def programTime : Nat := 1000000

def step : Script Unit := do
  let machine ← get
  if maxSteps ≤ machine.steps then passUntil none
  set { machine with steps := machine.steps + 1 }
  pass (commandTime machine.steps)

def send (target signal : Nat) : Script Unit :=
  modify fun machine =>
    { machine with
      signals := machine.signals ++ [⟨target, machine.now, signal⟩]
      jobs := machine.jobs.map fun job =>
        if job.process.pid = target then { job with expected := .unknown } else job }

/-! Channels -/

def newChannel (channel : Channel) : Script Nat := do
  let machine ← get
  set { machine with channels := machine.channels.push channel }
  return machine.channels.size

def channel? (index : Nat) : Script (Option Channel) := return (← get).channels[index]?

def setChannel (index : Nat) (channel : Channel) : Script Unit :=
  modify fun machine =>
    { machine with channels := machine.channels.setIfInBounds index channel }

def channelOf? (descriptor : Nat) : Script (Option Nat) := do
  return (← process).descriptors.lookup descriptor

def setDescriptor (descriptor : Nat) (channel : Option Nat) : Script Unit :=
  modifyProcess fun process =>
    let others := process.descriptors.filter fun entry => entry.1 ≠ descriptor
    { process with
      descriptors := match channel with
        | some channel => (descriptor, channel) :: others
        | none => others }

def sinkLimit : Nat := 1048576

def pieceLimit : Nat := 30000

def overwritten (content : List UInt8) (offset : Nat) (text : List UInt8) : List UInt8 :=
  content.take offset ++ List.replicate (offset - content.length) 0 ++ text ++
    content.drop (offset + text.length)

def contentAt (files : FileTree) (location : Location) : List UInt8 :=
  match files.find? location with
  | some ⟨.regular content, _, _⟩ => content
  | _ => []

def write (descriptor : Nat) (text : ByteText) : Script (Except Fault Unit) := do
  match ← channelOf? descriptor with
  | none => return if text.isEmpty then .ok () else .error .badDescriptor
  | some index =>
    if text.isEmpty then return .ok ()
    let machine ← get
    match machine.channels[index]?.getD .nothing with
    | .nothing | .zeros => return .ok ()
    | .full => return .error .noSpaceLeft
    | .source .. | .directory | .file _ _ .read => return .error .badDescriptor
    | .sink pieces size isRead =>
      let isFull := sinkLimit < size || pieceLimit < pieces.size
      if isFull && isRead then return .ok ()
      else if isFull then
        send machine.process.pid Signal.pipe
        passUntil (some machine.now)
        return .error .brokenPipe
      else
        let emptied := machine.channels.setIfInBounds index .nothing
        let pieces := pieces.push (machine.now, text)
        set { machine with
          channels := emptied.setIfInBounds index (.sink pieces (size + text.length) isRead) }
        return .ok ()
    | .file location offset mode =>
      let content := contentAt machine.files location
      let start := if mode = .append then content.length else offset
      set { machine with
        files := machine.files.setContent location (overwritten content start text.toBytes)
        channels := machine.channels.setIfInBounds index
          (.file location (start + text.length) mode) }
      return .ok ()

/-- Takes all that is left to read from a channel, with its times, and tells when no more can
follow. -/
def takeFrom (index : Nat) : Script (Except Fault (List (Nat × ByteText) × Option Nat)) := do
  let machine ← get
  let now := machine.now
  match machine.channels[index]?.getD .nothing with
  | .nothing => return .ok ([], some now)
  | .full | .zeros => return .ok ([], none)
  | .directory => return .error .isADirectory
  | .sink .. | .file _ _ .write | .file _ _ .overwrite | .file _ _ .append =>
    return .error .badDescriptor
  | .source pieces endsAt =>
    setChannel index (.source [] endsAt)
    return .ok (pieces, endsAt)
  | .file location offset mode =>
    let content := contentAt machine.files location
    setChannel index (.file location (max offset content.length) mode)
    return .ok ([(now, ByteText.ofBytes (content.drop offset))], some now)

def readFrom (index : Nat) : Script (Except Fault ByteText) := do
  match ← takeFrom index with
  | .error fault => return .error fault
  | .ok (pieces, endsAt) =>
    passUntil (endsAt.map fun moment =>
      pieces.foldl (fun moment piece => max moment piece.1) moment)
    return .ok (pieces.flatMap Prod.snd)

def readAll (descriptor : Nat) : Script (Except Fault ByteText) := do
  match ← channelOf? descriptor with
  | some index => readFrom index
  | none => return .error .badDescriptor

/-- What was found of a line: its text, whether a line feed ended it, when it was there, and the
pieces that are left. -/
structure LineFound where
  text : ByteText
  ended : Bool
  time : Option Nat
  rest : List (Nat × ByteText)

def lineIn (endsAt : Option Nat) : List (Nat × ByteText) → LineFound
  | [] => ⟨[], false, endsAt, []⟩
  | (time, text) :: rest =>
    let line := text.takeWhile (· ≠ '\n')
    match text.dropWhile (· ≠ '\n') with
    | _ :: after => ⟨line, true, some time, if after.isEmpty then rest else (time, after) :: rest⟩
    | [] =>
      let found := lineIn endsAt rest
      { found with
        text := line ++ found.text
        time := found.time.map fun later => max later time }

def takeLine (descriptor : Nat) : Script (Except Fault (ByteText × Bool)) := do
  let machine ← get
  match ← channelOf? descriptor with
  | none => return .error .badDescriptor
  | some index =>
    match machine.channels[index]?.getD .nothing with
    | .nothing => return .ok ([], false)
    | .full | .zeros => throw .endless
    | .directory => return .error .isADirectory
    | .sink .. | .file _ _ .write | .file _ _ .overwrite | .file _ _ .append =>
      return .error .badDescriptor
    | .source pieces endsAt =>
      let found := lineIn endsAt pieces
      setChannel index (.source found.rest endsAt)
      passUntil found.time
      return .ok (found.text, found.ended)
    | .file location offset mode =>
      let rest := ByteText.ofBytes ((contentAt machine.files location).drop offset)
      let line := rest.takeWhile (· ≠ '\n')
      let ended := line.length < rest.length
      setChannel index (.file location (offset + line.length + if ended then 1 else 0) mode)
      return .ok (line, ended)

def readCount (descriptor count : Nat) : Script (Except Fault ByteText) := do
  let machine ← get
  match ← channelOf? descriptor with
  | none => return .error .badDescriptor
  | some index =>
    match machine.channels[index]?.getD .nothing with
    | .full | .zeros => return .ok (List.replicate (min count sinkLimit) '\x00')
    | .file location offset mode =>
      if mode ≠ .read && mode ≠ .readWrite then return .error .badDescriptor
      let text := ByteText.ofBytes ((contentAt machine.files location).drop offset |>.take count)
      setChannel index (.file location (offset + text.length) mode)
      return .ok text
    | _ => return (← readFrom index).map fun text => text.take count

/-! Files -/

def pathOf (text : ByteText) : Script String := do
  let path := text.toText
  if path.isEmpty || FileTree.isAbsolute path then return path
  else return (← process).directory ++ "/" ++ path

def descriptorPath? (path : String) : Option Nat :=
  match path with
  | "/dev/stdin" => some 0
  | "/dev/stdout" => some 1
  | "/dev/stderr" => some 2
  | _ =>
    if path.startsWith "/dev/fd/" then (path.drop 8).toNat?
    else if path.startsWith "/proc/self/fd/" then (path.drop 14).toNat?
    else none

def openFile (text : ByteText) (mode : OpenMode) : Script (Except Fault Nat) := do
  let path ← pathOf text
  match descriptorPath? path with
  | some descriptor =>
    match ← channelOf? descriptor with
    | some index => return .ok index
    | none => return .error .noSuchFile
  | none =>
    let machine ← get
    match machine.files.entryAt true path with
    | .ok (location, entry) =>
      match entry.node with
      | .device .null => return .ok (← newChannel .nothing)
      | .device .endless => return .ok (← newChannel .zeros)
      | .device .full => return .ok (← newChannel .full)
      | .socket | .device .ownTerminal => return .error .noSuchDevice
      | .symlink _ => return .error .noSuchFile
      | .terminal => return .ok (← newChannel .nothing)
      | .directory =>
        if mode = .read then return .ok (← newChannel .directory) else return .error .isADirectory
      | .regular _ =>
        if mode = .write || mode = .overwrite then
          set { machine with files := machine.files.setContent location [] }
        return .ok (← newChannel (.file location 0 mode))
    | .error fault =>
      if mode = .read || fault ≠ .noSuchFile then return .error fault
      match machine.files.writeFile path [] with
      | .error fault => return .error fault
      | .ok files =>
        match files.locate true path with
        | .error fault => return .error fault
        | .ok location =>
          let permissions := 0o666 &&& (0o777 ^^^ (machine.process.mask &&& 0o777))
          set { machine with files := files.setMode location permissions }
          return .ok (← newChannel (.file location 0 mode))

/-! Messages -/

def say (text : ByteText) : Script Unit := do
  match ← write 1 text with
  | .ok () => pure ()
  | .error _ => modify fun machine => { machine with printFailed := true }

def sayLine (text : String) : Script Unit :=
  say (ByteText.ofString (text ++ "\n"))

def complain (message : String) : Script Unit := do
  let name := (← process).name.toText
  let _ ← write 2 (ByteText.ofString s!"{name}: 1: {message}\n")

def errorStatus : Nat := 2

def fail {α : Type} (message : String) : Script α := do
  complain message
  setStatus errorStatus
  throw .failed

/-! Variables -/

def lookUp? (name : String) : Script (Option Variable) := do
  return (← process).bindings.lookup name

def valueOf? (name : String) : Script (Option ByteText) := do
  return (← lookUp? name).bind Variable.value

def putVariable (name : String) (found? : Option Variable) : Script Unit :=
  modifyProcess fun process =>
    let others := process.bindings.filter fun entry => entry.1 ≠ name
    { process with
      bindings := match found? with
        | some found => (name, found) :: others
        | none => others }

/-- The variable that tells which argument is the next to be looked at for options. -/
def optionVariable : String := "OPTIND"

def assign (name : String) (value : ByteText) : Script Unit := do
  let old := (← lookUp? name).getD ⟨none, false, false⟩
  if old.readOnly then fail s!"{name}: is read only"
  let exported := old.exported || (← process).options.contains 'a'
  putVariable name (some { old with value := some value, exported })
  if name = optionVariable then
    let text := String.ofList value
    if text.toNat?.isNone then fail s!"Illegal number: {text}"
    let place := text.toNat?.getD 1
    modifyProcess fun process => { process with optionPlace := (max 1 place, 0) }

def shellOptions : List (Char × String) :=
  [('e', "errexit"), ('f', "noglob"), ('I', "ignoreeof"), ('i', "interactive"), ('m', "monitor"),
    ('n', "noexec"), ('s', "stdin"), ('x', "xtrace"), ('v', "verbose"), ('V', "vi"),
    ('E', "emacs"), ('C', "noclobber"), ('a', "allexport"), ('b', "notify"), ('u', "nounset"),
    ('p', "privileged"), ('\x01', "nolog"), ('\x02', "debug")]

/-- The letters of the options that are set, in the order that they are shown in. -/
def optionLetters (options : List Char) : List Char :=
  (shellOptions.map Prod.fst).reverse.filter fun letter =>
    options.contains letter && ' ' < letter

def hasOption (option : Char) : Script Bool := do
  return (← process).options.contains option

end Script

end DeviceRig.Shell
