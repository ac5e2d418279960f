import DeviceRig.Json.Nested
import DeviceRig.Link.Address
import DeviceRig.Program.Arguments
import DeviceRig.Program.Exit
import DeviceRig.Transport.Settings

/-!
Options that several commands share: durations, the link with its settings and keyword arguments.
-/
namespace DeviceRig.Program

open Json

def usageError (message : String) : ProgramError :=
  ⟨ProgramError.badUsage, message⟩

/-- Splits a duration into its digits and the nanoseconds of its unit: `ms`, `s` or none. -/
def splitUnit (text : List Char) : List Char × Nat :=
  match text.reverse with
  | 's' :: 'm' :: digits => (digits.reverse, 1000000)
  | 's' :: digits => (digits.reverse, 1000000000)
  | _ => (text, 1000000000)

def parseDuration (text : String) : Except ProgramError Duration :=
  let trimmed := Text.trimChars text.toList
  if trimmed.isEmpty then .error (usageError "duration must not be empty")
  else
    let (digits, unit) := splitUnit trimmed
    match Text.naturalChars Text.longLimit digits with
    | .error _ =>
      .error (usageError ("invalid duration value: " ++ String.ofList trimmed))
    | .ok 0 => .error (usageError "duration must be greater than zero")
    | .ok count => .ok ⟨count * unit⟩

structure LinkOptions where
  port : String
  baud : Option Nat
  callTimeout : String
  nackOnTimeout : Bool
deriving Repr, Inhabited

namespace LinkOptions

/-- The rate that was asked for counts only for a serial line whose address names none. -/
def address (options : LinkOptions) : Except ProgramError LinkAddress :=
  match LinkAddress.parse options.port with
  | .error error => .error (.ofLink "invalid --port" error)
  | .ok (.serial path rate) =>
    if options.port.contains '@' then .ok (.serial path rate)
    else .ok (.serial path (options.baud.getD rate))
  | .ok address => .ok address

def settings (options : LinkOptions) : Except ProgramError (LinkAddress × TransportSettings) := do
  let timeout ← parseDuration options.callTimeout
  let address ← options.address
  let policy := if options.nackOnTimeout then TimeoutPolicy.nack else .error
  let usual := TransportSettings.usual
  return (address, { usual with call := { usual.call with timeout, policy } })

end LinkOptions

def jsonOrText (text : String) : Value :=
  match parse text with
  | .ok value => value
  | .error _ => .text text

def parseKwarg (argument : String) : Except ProgramError (String × Value) :=
  match splitEquals argument.toList with
  | none => .error (usageError s!"expected KEY=VALUE, got {Text.quoted argument}")
  | some (key, value) =>
    if key.isEmpty then .error (usageError s!"empty key in {Text.quoted argument}")
    else .ok (String.ofList key, jsonOrText (String.ofList value))

def parseKwargsInto (sofar : Members) : List String → Except ProgramError Members
  | [] => .ok sofar
  | argument :: rest =>
    match parseKwarg argument with
    | .error error => .error error
    | .ok (key, value) => parseKwargsInto (Members.put sofar key value) rest

def parseKwargs (arguments : List String) : Except ProgramError Members :=
  parseKwargsInto [] arguments

end DeviceRig.Program
