/-!
Arguments of a command. An option with a value is written `--name value`, `--name=value` or, by its
letter, `-nvalue`, `-n=value` or `-n value`; a flag is its name alone. All else are words, and
behind `--` there are only words. An option may be given once; one that was not given may be read
from a variable.
-/
namespace DeviceRig.Program

inductive Detour where
  | help
  | version
  | misuse
deriving DecidableEq, Repr, Inhabited

structure OptionForm where
  name : String
  letter : Option Char
  accepts : Option (String → Bool)
  standIn : Option String
  required : Bool

structure CommandForm where
  options : List OptionForm
  words : List (String → Bool)
  takesMoreWords : Bool
  showsVersion : Bool
  stopsAtWord : Bool

structure Given where
  options : List (String × String)
  words : List String
deriving DecidableEq, Repr, Inhabited

namespace Given

def none : Given := ⟨[], []⟩

def value? (given : Given) (name : String) : Option String := given.options.lookup name

def has (given : Given) (name : String) : Bool := (given.value? name).isSome

end Given

inductive Argument where
  | word
  | escape
  | flag (option : OptionForm)
  | withValue (option : OptionForm) (value : String)
  | beforeValue (option : OptionForm)
  | detour (detour : Detour)

def splitEquals (text : List Char) : Option (List Char × List Char) :=
  let key := text.takeWhile (· ≠ '=')
  match text.drop key.length with
  | [] => none
  | _ :: value => some (key, value)

namespace CommandForm

def named? (form : CommandForm) (name : String) : Option OptionForm :=
  form.options.find? fun option => option.name = name

def lettered? (form : CommandForm) (letter : Char) : Option OptionForm :=
  form.options.find? fun option => option.letter = some letter

/-- An option that was named, with the value that is attached to it. -/
def argument (option : OptionForm) (value : Option String) : Argument :=
  match option.accepts, value with
  | none, none => .flag option
  | none, some _ => .detour .misuse
  | some _, none => .beforeValue option
  | some _, some value => .withValue option value

def named (form : CommandForm) (name : String) (value : Option String) : Argument :=
  match form.named? name with
  | some option => argument option value
  | none =>
    if value.isSome then .detour .misuse
    else if name = "help" then .detour .help
    else if form.showsVersion && name = "version" then .detour .version
    else .detour .misuse

def lettered (form : CommandForm) (letter : Char) (rest : List Char) : Argument :=
  match form.lettered? letter with
  | some option =>
    let value := match rest with
      | [] => none
      | '=' :: value => some (String.ofList value)
      | value => some (String.ofList value)
    argument option value
  | none =>
    if letter = 'h' then .detour .help
    else if form.showsVersion && letter = 'V' then .detour .version
    else .detour .misuse

def read (form : CommandForm) (text : String) : Argument :=
  match text.toList with
  | ['-', '-'] => .escape
  | '-' :: '-' :: rest =>
    match splitEquals rest with
    | some (name, value) => form.named (String.ofList name) (some (String.ofList value))
    | none => form.named (String.ofList rest) none
  | '-' :: letter :: rest => form.lettered letter rest
  | _ => .word

/-- Whether an argument may be the value of the option before it. -/
def isPlain (text : String) : Bool :=
  match text.toList with
  | '-' :: _ :: _ => false
  | _ => true

def giveWord (form : CommandForm) (given : Given) (word : String) : Except Detour Given :=
  let accepted := match form.words[given.words.length]? with
    | some accepts => accepts word
    | none => form.takesMoreWords
  if accepted then .ok { given with words := given.words ++ [word] } else .error .misuse

def giveWords (form : CommandForm) (given : Given) : List String → Except Detour Given
  | [] => .ok given
  | word :: rest =>
    match form.giveWord given word with
    | .error detour => .error detour
    | .ok given => form.giveWords given rest

def giveOption (given : Given) (option : OptionForm) (value : String) : Except Detour Given :=
  let accepted := match option.accepts with
    | some accepts => accepts value
    | none => true
  if accepted && !given.has option.name then
    .ok { given with options := given.options ++ [(option.name, value)] }
  else .error .misuse

/-- Reads arguments from the left; the first that is wrong decides. A form that stops at a word
leaves the arguments from there on. -/
def scan (form : CommandForm) (given : Given) : List String → Except Detour (Given × List String)
  | [] => .ok (given, [])
  | text :: rest =>
    match form.read text with
    | .detour detour => .error detour
    | .word =>
      if form.stopsAtWord then .ok (given, text :: rest)
      else
        match form.giveWord given text with
        | .error detour => .error detour
        | .ok given => form.scan given rest
    | .escape => (form.giveWords given rest).map fun given => (given, [])
    | .flag option =>
      match giveOption given option "" with
      | .error detour => .error detour
      | .ok given => form.scan given rest
    | .withValue option value =>
      match giveOption given option value with
      | .error detour => .error detour
      | .ok given => form.scan given rest
    | .beforeValue option =>
      match rest with
      | [] => .error .misuse
      | value :: rest =>
        if isPlain value then
          match giveOption given option value with
          | .error detour => .error detour
          | .ok given => form.scan given rest
        else .error .misuse

def fill (valueOf? : String → Option String) (given : Given) :
    List OptionForm → Except Detour Given
  | [] => .ok given
  | option :: rest =>
    match option.standIn.bind valueOf? with
    | some value =>
      if given.has option.name then fill valueOf? given rest
      else
        match giveOption given option value with
        | .error detour => .error detour
        | .ok given => fill valueOf? given rest
    | none => fill valueOf? given rest

def isComplete (form : CommandForm) (given : Given) : Bool :=
  form.words.length ≤ given.words.length
    && form.options.all fun option => !option.required || given.has option.name

def parse (form : CommandForm) (valueOf? : String → Option String) (arguments : List String) :
    Except Detour Given := do
  let (given, _) ← form.scan .none arguments
  let given ← fill valueOf? given form.options
  if form.isComplete given then return given else throw .misuse

end CommandForm

end DeviceRig.Program
