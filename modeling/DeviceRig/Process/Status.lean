/-!
How a process ended, as the operating system tells it in one number: the low seven bits are the
signal that ended it, the eighth tells of a core dump, and the next eight are its exit code.
-/
namespace DeviceRig

structure ExitStatus where
  raw : Nat
deriving DecidableEq, Repr, Inhabited

def wordValues : Nat := 0x100000000

namespace ExitStatus

def ofCode (code : Nat) : ExitStatus := ⟨code % 256 * 256⟩

def ofSignal (signal : Nat) : ExitStatus := ⟨signal⟩

def ofInt (number : Int) : ExitStatus := ⟨(number % (wordValues : Int)).toNat⟩

def signed (status : ExitStatus) : Int :=
  Int.bmod status.raw wordValues

def lowBits (status : ExitStatus) : Nat := status.raw % 128

def code? (status : ExitStatus) : Option Nat :=
  if status.lowBits = 0 then some (status.raw / 256 % 256) else none

def signal? (status : ExitStatus) : Option Nat :=
  if status.lowBits = 0 ∨ status.lowBits = 127 then none else some status.lowBits

def dumpedCore (status : ExitStatus) : Bool :=
  status.raw / 128 % 2 = 1

def signalNames : List String :=
  ["SIGHUP", "SIGINT", "SIGQUIT", "SIGILL", "SIGTRAP", "SIGABRT", "SIGBUS", "SIGFPE", "SIGKILL",
    "SIGUSR1", "SIGSEGV", "SIGUSR2", "SIGPIPE", "SIGALRM", "SIGTERM", "SIGSTKFLT", "SIGCHLD",
    "SIGCONT", "SIGSTOP", "SIGTSTP", "SIGTTIN", "SIGTTOU", "SIGURG", "SIGXCPU", "SIGXFSZ",
    "SIGVTALRM", "SIGPROF", "SIGWINCH", "SIGIO", "SIGPWR", "SIGSYS"]

def signalName (signal : Nat) : String :=
  match signalNames[signal - 1]? with
  | some name => if signal = 0 then "" else s!" ({name})"
  | none => ""

def describe (status : ExitStatus) : String :=
  match status.code?, status.signal? with
  | some code, _ => s!"exit status: {code}"
  | none, some signal =>
    let core := if status.dumpedCore then " (core dumped)" else ""
    s!"signal: {signal}{signalName signal}{core}"
  | none, none =>
    if status.raw % 256 = 127 then
      let signal := status.raw / 256 % 256
      s!"stopped (not terminated) by signal: {signal}{signalName signal}"
    else if status.raw = 0xFFFF then "continued (WIFCONTINUED)"
    else
      let digits := String.ofList (Nat.toDigits 16 status.raw)
      s!"unrecognised wait status: {status.signed} 0x{digits}"

end ExitStatus

end DeviceRig
