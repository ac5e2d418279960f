import DeviceRig.Task.Error

/-!
How the program ends: its exit codes, and what each failure becomes. A failure of the operating
system decides by its kind; a link, call or transport failure by what lies inside it.
-/
namespace DeviceRig

structure ProgramError where
  code : Nat
  message : String
deriving DecidableEq, Repr, Inhabited

namespace ProgramError

def success : Nat := 0

def failure : Nat := 1

def usageShown : Nat := 2

def transportFailed : Nat := 3

def permissionDenied : Nat := 50

def dataInvalid : Nat := 60

def badUsage : Nat := 64

def timedOut : Nat := 124

def internal : Nat := 125

def inContext (code : Nat) (context message : String) : ProgramError :=
  ⟨code, s!"{context}: {message}"⟩

def faultCode : FaultKind → Nat
  | .permissionDenied => permissionDenied
  | .timedOut | .wouldBlock => timedOut
  | .notFound => badUsage
  | .connectionRefused => failure
  | _ => internal

def ofFault (context : String) (fault : Fault) : ProgramError :=
  inContext (faultCode fault.kind) context fault.message

def ofLink (context : String) (error : LinkError) : ProgramError :=
  match error with
  | .notOpened _ fault =>
    inContext (if fault.kind = .permissionDenied then permissionDenied else transportFailed)
      context error.message
  | .invalidAddress _ | .unsupportedBaudRate _ => inContext badUsage context error.message
  | .stream fault => ofFault context fault
  | other => inContext transportFailed context other.message

def ofCall (context : String) (error : CallError) : ProgramError :=
  match error with
  | .timedOut .. => inContext timedOut context error.message
  | .link inner => ofLink context inner
  | .json _ | .invalidArguments _ => inContext dataInvalid context error.message
  | other => inContext transportFailed context other.message

def ofTransport (context : String) (error : TransportError) : ProgramError :=
  match error with
  | .linkUnavailable inner | .link inner => ofLink context inner
  | .call inner => ofCall context inner
  | .alreadyOpen | .notOpen => inContext internal context error.message
  | other => inContext transportFailed context other.message

def ofBatch (context : String) (error : BatchError) : ProgramError :=
  match error with
  | .tasksFailed _ => inContext failure context error.message
  | .stream fault => ofFault context fault
  | .json _ => inContext dataInvalid context error.message
  | other => inContext internal context other.message

end ProgramError

def TaskFailure.ofProgram (error : ProgramError) : TaskFailure :=
  ⟨"CliError", error.message⟩

end DeviceRig
