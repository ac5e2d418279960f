import DeviceRig.Log.Level
import DeviceRig.Output.Format
import DeviceRig.Program.Options

/-!
The commands of the program and how a command line asks for one. The options for output and logging
may stand before and behind the name of the command; where both are given, the one behind counts.
-/
namespace DeviceRig.Program

inductive Command where
  | call (link : LinkOptions) (service method : String) (arguments : List String)
      (qualified : Bool)
  | echo (link : LinkOptions) (text : String)
  /-- Prints the device's log for a while, or until the device hangs up. -/
  | logs (link : LinkOptions) (window : Option String)
  | run (batch timeout terminateGrace : String) (collect : Bool)
  | simulate (path : String) (limit : Option Nat)
  | version (extended : Bool)
deriving Repr, Inhabited

structure Invocation where
  format : Output.Format
  command : Command
deriving Repr, Inhabited

/-- A rate: a whole number of 32 bits. A minus sign may stand before zero. -/
def rateOf? (text : String) : Option Nat :=
  match text.toList with
  | '-' :: digits => if digits.isEmpty || digits.any (· ≠ '0') then none else some 0
  | digits => (Text.naturalChars Text.wordLimit digits).toOption

def countOf? (text : String) : Option Nat := (Text.natural Text.longLimit text).toOption

def anyText (_ : String) : Bool := true

def isPath (text : String) : Bool := !text.isEmpty

def isLogFormat (text : String) : Bool := text = "text" || text = "json"

namespace OptionForm

def valued (name : String) (accepts : String → Bool) : OptionForm :=
  ⟨name, none, some accepts, none, false⟩

def flag (name : String) : OptionForm := ⟨name, none, none, none, false⟩

end OptionForm

def generalOptions : List OptionForm :=
  [.valued "format" fun text => (Output.Format.ofName? text).isSome,
    .valued "log-format" isLogFormat,
    .valued "log-level" fun text => (LogLevel.ofName? text).isSome]

namespace LinkOptions

def portVariable : String := "DEVLINK_PORT"

def rateVariable : String := "DEVLINK_BAUD"

def forms : List OptionForm :=
  [⟨"port", some 'p', some anyText, some portVariable, true⟩,
    ⟨"baud", none, some fun text => (rateOf? text).isSome, some rateVariable, false⟩,
    .valued "call-timeout" anyText, .flag "nack-on-timeout"]

def ofGiven (given : Given) : LinkOptions :=
  ⟨(given.value? "port").getD "", (given.value? "baud").bind rateOf?,
    (given.value? "call-timeout").getD "1s", given.has "nack-on-timeout"⟩

end LinkOptions

inductive CommandName where
  | call
  | echo
  | logs
  | run
  | simulate
  | version
deriving DecidableEq, Repr, Inhabited

namespace CommandName

def ofText? : String → Option CommandName
  | "rpc" => some .call
  | "echo" => some .echo
  | "logs" => some .logs
  | "run" => some .run
  | "simulate" => some .simulate
  | "version" => some .version
  | _ => none

def ownOptions : CommandName → List OptionForm
  | .call => LinkOptions.forms ++ [.flag "qualified"]
  | .echo => LinkOptions.forms
  | .logs => LinkOptions.forms ++ [.valued "duration" anyText]
  | .run => [.valued "timeout" anyText, .flag "collect", .valued "terminate-grace" anyText]
  | .simulate => [.valued "count" fun text => (countOf? text).isSome]
  | .version => [.flag "extended"]

def words : CommandName → List (String → Bool)
  | .call => [anyText, anyText]
  | .echo => [anyText]
  | .run | .simulate => [isPath]
  | .logs | .version => []

def form (name : CommandName) : CommandForm :=
  ⟨name.ownOptions ++ generalOptions, name.words, name = .call, false, false⟩

def command (name : CommandName) (given : Given) : Command :=
  let word (position : Nat) := (given.words[position]?).getD ""
  match name with
  | .call =>
    .call (.ofGiven given) (word 0) (word 1) (given.words.drop 2) (given.has "qualified")
  | .echo => .echo (.ofGiven given) (word 0)
  | .logs => .logs (.ofGiven given) (given.value? "duration")
  | .run =>
    .run (word 0) ((given.value? "timeout").getD "30s")
      ((given.value? "terminate-grace").getD "3s") (given.has "collect")
  | .simulate => .simulate (word 0) ((given.value? "count").bind countOf?)
  | .version => .version (given.has "extended")

end CommandName

def leadingForm : CommandForm := ⟨generalOptions, [], false, true, true⟩

def helpWord : String := "help"

def helpDetour : List String → Detour
  | [] => .help
  | [name] => if name = helpWord || (CommandName.ofText? name).isSome then .help else .misuse
  | _ => .misuse

def Invocation.parse (valueOf? : String → Option String) (arguments : List String) :
    Except Detour Invocation := do
  match ← leadingForm.scan .none arguments with
  | (_, []) => throw .misuse
  | (leading, word :: rest) =>
    if word = helpWord then throw (helpDetour rest)
    match CommandName.ofText? word with
    | none => throw .misuse
    | some name =>
      let given ← name.form.parse valueOf? rest
      let format := (given.value? "format").or (leading.value? "format")
      return ⟨(format.bind Output.Format.ofName?).getD .usual, name.command given⟩

end DeviceRig.Program
