import DeviceRig.Process.Shell.Program

/-!
What tools have in common: their options, which may stand among the other arguments, their messages,
and the texts that their arguments name.
-/
namespace DeviceRig.Shell.Tool

open Script

def warn (command message : String) : Script Unit := do
  let _ ← write 2 (ByteText.ofString s!"{command}: {message}\n")

/-- The options that were given, each with its value if it takes one, and the other arguments. -/
structure Given where
  letters : List (Char × ByteText)
  operands : List ByteText
deriving Inhabited

namespace Given

def has (given : Given) (letter : Char) : Bool :=
  given.letters.any fun entry => entry.1 = letter

def value? (given : Given) (letter : Char) : Option ByteText :=
  (given.letters.reverse.find? fun entry => entry.1 = letter).map Prod.snd

def last? (given : Given) (letters : List Char) : Option Char :=
  (given.letters.reverse.find? fun entry => letters.contains entry.1).map Prod.fst

end Given

/-- The options that a tool knows: letters, with a colon behind those that take a value, and the
long names of some. -/
structure Known where
  letters : List Char
  names : List (String × Char)
  ordered : Bool

namespace Known

def takesValue (known : Known) (letter : Char) : Bool :=
  match known.letters.dropWhile (· ≠ letter) with
  | _ :: ':' :: _ => true
  | _ => false

def read (known : Known) : Nat → List ByteText → Except String Given
  | 0, arguments => .ok ⟨[], arguments⟩
  | count + 1, arguments =>
    let withOption (letter : Char) (value : ByteText) (rest : List ByteText) :=
      (read known count rest).map fun given =>
        { given with letters := (letter, value) :: given.letters }
    match arguments with
    | [] => .ok ⟨[], []⟩
    | ['-', '-'] :: rest => .ok ⟨[], rest⟩
    | ('-' :: '-' :: long) :: rest =>
      let name := String.ofList (long.takeWhile (· ≠ '='))
      match known.names.lookup name, long.dropWhile (· ≠ '=') with
      | none, _ => .error s!"unrecognized option '--{name}'"
      | some letter, _ :: value => withOption letter value rest
      | some letter, [] =>
        if known.takesValue letter then
          match rest with
          | value :: rest => withOption letter value rest
          | [] => .error s!"option '--{name}' requires an argument"
        else withOption letter [] rest
    | ('-' :: letter :: letters) :: rest =>
      if letter = ':' || !known.letters.contains letter then
        .error s!"invalid option -- '{letter}'"
      else if known.takesValue letter then
        match letters, rest with
        | [], value :: rest => withOption letter value rest
        | [], [] => .error s!"option requires an argument -- '{letter}'"
        | value, rest => withOption letter value rest
      else withOption letter [] (if letters.isEmpty then rest else ('-' :: letters) :: rest)
    | operand :: rest =>
      if known.ordered then .ok ⟨[], arguments⟩
      else (read known count rest).map fun given =>
        { given with operands := operand :: given.operands }

end Known

def withOptions (command letters : String) (names : List (String × Char)) (failure : Nat)
    (arguments : List ByteText) (run : Given → Script Nat) : Script Nat := do
  let known : Known := ⟨letters.toList, names, false⟩
  match known.read (arguments.flatten.length + arguments.length + 1) arguments with
  | .ok given => run given
  | .error message =>
    warn command message
    return failure

def withLeadingOptions (command letters : String) (names : List (String × Char)) (failure : Nat)
    (arguments : List ByteText) (run : Given → Script Nat) : Script Nat := do
  let known : Known := ⟨letters.toList, names, true⟩
  match known.read (arguments.flatten.length + arguments.length + 1) arguments with
  | .ok given => run given
  | .error message =>
    warn command message
    return failure

def isStandardInput (operand : ByteText) : Bool := operand = ['-']

def inputOf (operand : ByteText) : Script (Except Fault Nat) := do
  if isStandardInput operand then
    match ← channelOf? 0 with
    | some channel => return .ok channel
    | none => return .error .badDescriptor
  else openFile operand .read

/-- The text of a file, or of the standard input; none if it cannot be read, which is said. -/
def textOf (command : String) (operand : ByteText) : Script (Option ByteText) := do
  let read ← match ← inputOf operand with
    | .ok channel => readFrom channel
    | .error fault => pure (.error fault)
  match read with
  | .ok text => return some text
  | .error fault =>
    warn command s!"{operand.toText}: {fault.reason}"
    return none

def inputsOf (operands : List ByteText) : List ByteText :=
  if operands.isEmpty then [['-']] else operands

def allText (command : String) (operands : List ByteText) : Script (ByteText × Bool) := do
  let texts ← (inputsOf operands).mapM (textOf command)
  return ((texts.filterMap id).flatten, texts.all Option.isSome)

def linesOf (text : ByteText) : List ByteText :=
  let (lines, last) := text.foldr (fun c (state : List ByteText × ByteText) =>
    if c = '\n' then ([] :: state.1, state.2)
    else match state.1 with
      | [] => ([], c :: state.2)
      | first :: others => ((c :: first) :: others, state.2)) ([], [])
  -- What stands before the first line feed is the head of the row; a last line without one is
  -- apart.
  match lines with
  | [] => if last.isEmpty then [] else [last]
  | _ => if last.isEmpty then lines else lines ++ [last]

def unlines (lines : List ByteText) : ByteText :=
  lines.flatMap fun line => line ++ ['\n']

def natural? (text : ByteText) : Option Nat :=
  if !text.isEmpty && text.all isDigit then (String.ofList text).toNat? else none

def integer? (text : ByteText) : Option Int :=
  match text with
  | '-' :: digits => (natural? digits).map fun value => -(value : Int)
  | '+' :: digits | digits => (natural? digits).map Int.ofNat

def paddedNumber (width number : Nat) : ByteText :=
  let digits := decimal number
  List.replicate (width - digits.length) ' ' ++ digits

def printed (command : String) (status : Nat) : Script Nat := do
  if (← get).printFailed then
    warn command "write error"
    return 1
  else return status

end DeviceRig.Shell.Tool
