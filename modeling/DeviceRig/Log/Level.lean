/-!
Levels of log records.
-/
namespace DeviceRig

inductive LogLevel where
  | error
  | warn
  | info
  | debug
  | trace
deriving DecidableEq, Repr, Inhabited

namespace LogLevel

def name : LogLevel → String
  | .error => "error"
  | .warn => "warn"
  | .info => "info"
  | .debug => "debug"
  | .trace => "trace"

def label : LogLevel → String
  | .error => "ERROR"
  | .warn => "WARN"
  | .info => "INFO"
  | .debug => "DEBUG"
  | .trace => "TRACE"

def all : List LogLevel := [.error, .warn, .info, .debug, .trace]

def ofName? (text : String) : Option LogLevel :=
  all.find? fun level => level.name = text

/-- The level of a name in any case, and `info` for everything else. -/
def ofVariable : Option String → LogLevel
  | none => .info
  | some text => (ofName? (String.ofList (text.toList.map Char.toLower))).getD .info

/-- The level of a record; a label that is not known counts as `trace`. -/
def ofLabel (text : String) : LogLevel :=
  (all.find? fun level => level.label = text).getD .trace

end LogLevel

end DeviceRig
