import DeviceRig.Process.Status

/-!
Signals: their names, and what they do to a process that has made no arrangements.
-/
namespace DeviceRig.Signal

def hangUp : Nat := 1

def interrupt : Nat := 2

def kill : Nat := 9

def pipe : Nat := 13

def terminate : Nat := 15

def childEnded : Nat := 17

def resume : Nat := 18

def stop : Nat := 19

def largest : Nat := 64

inductive DefaultAction where
  | ends
  | stops
  | nothing
deriving DecidableEq, Repr

/-- What a signal does by default. A signal that resumes a process does nothing to one that runs. -/
def defaultAction (signal : Nat) : DefaultAction :=
  if [17, 18, 23, 28].contains signal then .nothing
  else if [19, 20, 21, 22].contains signal then .stops
  else .ends

def isCatchable (signal : Nat) : Bool :=
  signal ≠ kill && signal ≠ stop

/-- The name of a signal without what all names start with; the realtime signals are counted from
their first and last. -/
def name (signal : Nat) : String :=
  match ExitStatus.signalNames[signal - 1]? with
  | some name => (name.drop 3).toString
  | none =>
    if signal ≤ 34 then "RTMIN"
    else if signal < 50 then s!"RTMIN+{signal - 34}"
    else if signal < 64 then s!"RTMAX-{64 - signal}"
    else "RTMAX"

def descriptions : List String :=
  ["Hangup", "Interrupt", "Quit", "Illegal instruction", "Trace/breakpoint trap", "Aborted",
    "Bus error", "Floating point exception", "Killed", "User defined signal 1",
    "Segmentation fault", "User defined signal 2", "Broken pipe", "Alarm clock", "Terminated",
    "Stack fault", "Child exited", "Continued", "Stopped (signal)", "Stopped",
    "Stopped (tty input)", "Stopped (tty output)", "Urgent I/O condition",
    "CPU time limit exceeded", "File size limit exceeded", "Virtual timer expired",
    "Profiling timer expired", "Window changed", "I/O possible", "Power failure",
    "Bad system call"]

def description (signal : Nat) : String :=
  match descriptions[signal - 1]? with
  | some description => description
  | none =>
    if signal < 34 then s!"Unknown signal {signal}" else s!"Real-time signal {signal - 34}"

def ofName? (text : String) : Option Nat :=
  let wanted := text.toUpper
  (List.range (largest + 1)).find? fun signal =>
    signal ≠ 0 && signal ≠ 32 && signal ≠ 33 && name signal = wanted

end DeviceRig.Signal
