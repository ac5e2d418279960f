import DeviceRig.Process.Shell.Arithmetic
import DeviceRig.Process.Shell.Child
import DeviceRig.Process.Shell.Field

/-!
Expanding words. The parts of a word become fragments: parameters give way to their values, scripts
to what they print and calculations to their results. Fragments are then cut into fields, and a
field that is a pattern of file names into the names it stands for.
-/
namespace DeviceRig.Shell.Script

/-! File names -/

def splitAtSlashes : List PatternChar → List (List PatternChar)
  | [] => [[]]
  | c :: rest =>
    match splitAtSlashes rest with
    | [] => [[c]]
    | first :: others => if c.1 = '/' then [] :: first :: others else (c :: first) :: others

/-- The paths that the parts of a pattern stand for, behind a path that is known. -/
def pathsMatching (files : FileTree) (start : String) (known : String) :
    List (List PatternChar) → List String
  | [] => []
  | part :: rest =>
    let place (path : String) := if FileTree.isAbsolute path then path else start ++ "/" ++ path
    if isPattern part then
      let directory := if known.isEmpty then start else place known
      let hidden := part.head?.any fun c => c.1 = '.'
      let names := match files.entryAt true directory with
        | .ok (location, _) => (if hidden then [".", ".."] else []) ++ files.childNames location
        | .error _ => []
      let pattern := Pattern.ofChars part
      let fitting := names.filter fun name =>
        (hidden || !name.startsWith ".") && pattern.matchesAll (ByteText.ofString name)
      if rest.isEmpty then fitting.map fun name => known ++ name
      else
        fitting.flatMap fun name =>
          let path := known ++ name
          if files.isDirectory (place path) then pathsMatching files start (path ++ "/") rest
          else []
    else
      let path := known ++ (fieldText part).toText
      if rest.isEmpty then
        if (files.entryAt false (place path)).isOk || part.isEmpty then [path] else []
      else pathsMatching files start (path ++ "/") rest

/-- What a field stands for: file names if it is a pattern that some have, or itself. -/
def fileNames (field : List PatternChar) : Script (List ByteText) := do
  if !isPattern field || (← hasOption 'f') then return [fieldText field]
  let start := (← process).directory
  match pathsMatching (← get).files start "" (splitAtSlashes field) with
  | [] => return [fieldText field]
  | paths => return paths.map ByteText.ofString

/-! Parameters -/

def separators : Script ByteText := do
  return (← valueOf? "IFS").getD " \t\n".toList

def joiner : Script ByteText := do
  return (← valueOf? "IFS").elim [' '] fun separators => separators.take 1

def decimal (number : Nat) : ByteText := (toString number).toList

def parameterValue? (name : String) : Script (Option ByteText) := do
  let process ← process
  match name with
  | "#" => return some (decimal process.arguments.length)
  | "?" => return some (decimal process.status)
  | "$" => return some (decimal process.root)
  | "!" => return process.latestJob.map decimal
  | "-" => return some (optionLetters process.options)
  | "0" => return some process.name
  | _ =>
    match name.toNat? with
    | some position => return process.arguments[position - 1]?
    | none => valueOf? name

def isAllArguments (name : String) : Bool := name = "@" || name = "*"

/-- What lies between two arguments: a border if each is to be a field of its own, or a text. -/
def betweenArguments (name : String) (splits quoted : Bool) : Script (List Fragment) := do
  if splits && (name = "@" || !quoted) then return [.border]
  else return Fragment.ofText (← joiner) quoted true |>.filter (· ≠ .mark)

def parameterFragments? (name : String) (splits quoted : Bool) :
    Script (Option (List Fragment)) := do
  if isAllArguments name then
    let between ← betweenArguments name splits quoted
    let marks := if quoted && name = "*" then [Fragment.mark] else []
    let arguments := (← process).arguments.map fun argument => Fragment.ofText argument quoted true
    return some (marks ++ between.intercalate arguments)
  else
    return (← parameterValue? name).map fun value => Fragment.ofText value quoted true

def fragmentLength (fragments : List Fragment) : Nat :=
  fragments.countP (· ≠ .mark)

def mayBeUnset (name : String) : Bool :=
  isAllArguments name

/-! Words -/

structure Expanding where
  splits : Bool
  /-- The word stands within a parameter, so that its plain text is split as well. -/
  nested : Bool
  assigns : Bool

namespace Expanding

def fields : Expanding := ⟨true, false, false⟩

def text : Expanding := ⟨false, false, false⟩

def assigned : Expanding := ⟨false, false, true⟩

end Expanding

def homeOf? (user : ByteText) : Script (Option ByteText) := do
  if user.isEmpty then valueOf? "HOME"
  else if user = "root".toList then return some "/root".toList
  else return none

/-- Puts directories in place of the tildes that a plain text starts with or, in what is assigned,
that follow a colon; `goesOn` tells whether more of the word follows. -/
def withHomes (assigns goesOn : Bool) : Nat → ByteText → Script Word
  | 0, text => return [.literal text false]
  | count + 1, text => do
    let stops := fun c => c = '/' || (assigns && c = ':')
    let (start, behind) ← match text with
      | '~' :: rest =>
        let user := rest.takeWhile fun c => !stops c
        let after := rest.dropWhile fun c => !stops c
        if after.isEmpty && goesOn then pure ([], text)
        else
          match ← homeOf? user with
          | some home => pure ([WordPart.literal home true], after)
          | none => pure ([], text)
      | _ => pure ([], text)
    let plain := if assigns then behind.takeWhile (· ≠ ':') else behind
    match behind.drop plain.length with
    | [] => return start ++ [.literal plain false]
    | _ :: rest =>
      return start ++ .literal (plain ++ [':']) false :: (← withHomes assigns goesOn count rest)

def expandTildes (assigns : Bool) (word : Word) : Script Word := do
  match word with
  | .literal text false :: rest =>
    if text.contains '~' then
      return (← withHomes assigns (!rest.isEmpty) text.length text) ++ rest
    else return word
  | _ => return word

def withoutFinalFeeds (text : ByteText) : ByteText :=
  (text.reverse.dropWhile (· = '\n')).reverse

def outputOf (runner : Runner) (script : List Command) : Script ByteText := do
  let channel ← newChannel (.sink #[] 0 false)
  let pid ← newPid
  let child := childOf (← process) pid
  let descriptors := (1, channel) :: child.descriptors.filter fun entry => entry.1 ≠ 1
  let status := if script.isEmpty then 0 else child.status
  let ending ← runAs { child with descriptors, status }
    (asShell runner (runner.command .last (.sequence script)))
  let release ← releaseTime runner channel
  let text := (← written channel).flatMap Prod.snd
  setChannel channel .nothing
  match release, ending with
  | some moment, some ending =>
    passUntil (some (max (← get).now moment))
    announce ending
    noticeChild
    modifyProcess fun process => { process with substituted := some (statusOf ending) }
  | _, _ => passUntil none
  return withoutFinalFeeds (text.filter (· ≠ '\x00'))

def calculate (text : ByteText) : Script ByteText := do
  let process ← process
  let lookup (name : String) : ByteText :=
    ((process.bindings.lookup name).bind Variable.value).getD []
  let result := do
    let calculation ← Calculation.parse text
    calculation.evaluate lookup []
  match result with
  | .error flaw => fail (flaw.message text)
  | .ok (value, assigned) =>
    for (name, value) in assigned.reverse do
      assign name (toString value).toList
    return (toString value).toList

def wordDepth : Nat := 1000

def expandPart (runner : Runner) : Nat → Expanding → WordPart → Script (List Fragment)
  | 0, _, _ => return []
  | depth + 1, manner, part => do
    let expandWord (manner : Expanding) (word : Word) : Script (List Fragment) := do
      let word ← expandTildes manner.assigns word
      return (← word.mapM (expandPart runner depth manner)).flatten
    match part with
    | .literal text quoted => return Fragment.ofText text quoted manner.nested
    | .output script quoted => return Fragment.ofText (← outputOf runner script) quoted true
    | .calculation word quoted =>
      let text := Fragment.text (← expandWord .text word)
      return Fragment.ofText (← calculate text) quoted true
    | .parameter name change word quoted =>
      let value? ← parameterFragments? name manner.splits quoted
      let nested := { manner with nested := true }
      let isEmpty := fun (value : List Fragment) => fragmentLength value = 0
      let missing (ifEmpty : Bool) := match value? with
        | none => true
        | some value => ifEmpty && isEmpty value
      let required : Script (List Fragment) := do
        match value? with
        | some value => return value
        | none =>
          if (← hasOption 'u') && !mayBeUnset name then fail s!"{name}: parameter not set"
          else return Fragment.ofText [] quoted true
      match change with
      | .value => required
      | .length =>
        return Fragment.ofText (decimal (fragmentLength (← required))) quoted true
      | .fallback ifEmpty =>
        if missing ifEmpty then expandWord nested word else required
      | .alternative ifEmpty =>
        if missing ifEmpty then return Fragment.ofText [] quoted true
        else expandWord nested word
      | .assign ifEmpty =>
        if missing ifEmpty then
          let value := Fragment.text (← expandWord .text word)
          if !isName name.toList then fail s!"{name}: bad variable name"
          assign name value
          return Fragment.ofText value quoted true
        else required
      | .require ifEmpty =>
        if missing ifEmpty then
          let message := Fragment.text (← expandWord .text word)
          fail (name ++ ": " ++
            if message.isEmpty then "parameter not set" else message.toText)
        else required
      | .cutStart longest =>
        let value ← required
        let pattern := Pattern.ofChars (Fragment.patternChars (← expandWord .text word))
        let left := (pattern.cutStart longest (Fragment.joinedText value)).length
        return Fragment.dropStart (fragmentLength value - left) value
      | .cutEnd longest =>
        let value ← required
        let pattern := Pattern.ofChars (Fragment.patternChars (← expandWord .text word))
        let left := (pattern.cutEnd longest (Fragment.joinedText value)).length
        return Fragment.takeStart left value
      | .bad => fail "Bad substitution"

def expandWord (runner : Runner) (manner : Expanding) (word : Word) : Script (List Fragment) := do
  let word ← expandTildes manner.assigns word
  return (← word.mapM (expandPart runner wordDepth manner)).flatten

def expandText (runner : Runner) (word : Word) : Script ByteText := do
  return Fragment.text (← expandWord runner .text word)

def expandAssigned (runner : Runner) (word : Word) : Script ByteText := do
  return Fragment.text (← expandWord runner .assigned word)

def expandPattern (runner : Runner) (word : Word) : Script Pattern := do
  return Pattern.ofChars (Fragment.patternChars (← expandWord runner .text word))

def expandFields (runner : Runner) (word : Word) : Script (List ByteText) := do
  let fragments ← expandWord runner .fields word
  let fields := splitFields (← separators) fragments
  return (← fields.mapM fileNames).flatten

def expandAll (runner : Runner) (words : List Word) : Script (List ByteText) := do
  return (← words.mapM (expandFields runner)).flatten

end DeviceRig.Shell.Script
