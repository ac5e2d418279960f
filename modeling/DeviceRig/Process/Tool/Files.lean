import DeviceRig.Process.Shell.Builtin
import DeviceRig.Process.Tool.Basic

/-!
Tools that list, make, move and remove files, and that take paths apart.
-/
namespace DeviceRig.Shell.Tool

open Script

def changeFiles (command what : String) (change : FileTree → Except Fault FileTree) :
    Script Nat := do
  let machine ← get
  match change machine.files with
  | .ok files =>
    set { machine with files }
    return 0
  | .error fault =>
    warn command s!"{what}: {fault.reason}"
    return 1

def forAll (operands : List ByteText) (run : ByteText → Script Nat) : Script Nat := do
  let mut result := 0
  for operand in operands do
    result := max result (← run operand)
  return result

def missingOperand (command : String) : Script Nat := do
  warn command "missing operand"
  return 1

def entryOf? (follow : Bool) (path : ByteText) : Script (Option (Location × FileEntry)) := do
  return ((← get).files.entryAt follow (← pathOf path)).toOption

/-! Paths -/

def pathText (location : Location) : String := "/" ++ "/".intercalate location

def withoutFinalSlashes (path : ByteText) : ByteText :=
  match (path.reverse.dropWhile (· = '/')).reverse with
  | [] => path.take 1
  | kept => kept

def baseName (path : ByteText) : ByteText :=
  let path := withoutFinalSlashes path
  if path = ['/'] then path else (path.reverse.takeWhile (· ≠ '/')).reverse

def directoryName (path : ByteText) : ByteText :=
  let path := withoutFinalSlashes path
  if !path.contains '/' then ['.']
  else
    let before := (path.reverse.dropWhile (· ≠ '/')).reverse
    if path = ['/'] then path else withoutFinalSlashes before

def showBaseName (arguments : List ByteText) : Script Nat :=
  withLeadingOptions "basename" "as:z" [("suffix", 's'), ("multiple", 'a')] 1 arguments
      fun given => do
    let without (ending name : ByteText) : ByteText :=
      if name ≠ ending && ending.reverse.isPrefixOf name.reverse then
        name.take (name.length - ending.length)
      else name
    match given.operands, given.value? 's' with
    | [], _ => missingOperand "basename"
    | operands, some ending =>
      say (unlines (operands.map fun path => without ending (baseName path)))
      return 0
    | [path], none =>
      say (baseName path ++ ['\n'])
      return 0
    | path :: ending :: more, none =>
      if given.has 'a' then
        say (unlines ((path :: ending :: more).map baseName))
        return 0
      else if !more.isEmpty then
        warn "basename" "extra operand"
        return 1
      else
        say (without ending (baseName path) ++ ['\n'])
        return 0

def showDirectoryName (arguments : List ByteText) : Script Nat := do
  if arguments.isEmpty then missingOperand "dirname"
  else
    say (unlines (arguments.map directoryName))
    return 0

def showTargets (command : String) (resolves : Bool) (arguments : List ByteText) : Script Nat :=
  withOptions command "fenmqsz" [] 1 arguments fun given => do
    let files := (← get).files
    forAll given.operands fun operand => do
      let path ← pathOf operand
      if resolves || given.has 'f' || given.has 'e' || given.has 'm' then
        match files.locate true path with
        | .ok location =>
          sayLine (pathText location)
          return 0
        | .error fault =>
          if resolves then warn command s!"{operand.toText}: {fault.reason}"
          return 1
      else
        match files.entryAt false path with
        | .ok (_, ⟨.symlink target, _, _⟩) =>
          sayLine target
          return 0
        | _ => return 1

/-! Listing -/

def modeText (entry : FileEntry) : String :=
  let kind := match entry.node with
    | .directory => "d"
    | .symlink _ => "l"
    | .socket => "s"
    | .device _ | .terminal => "c"
    | .regular _ => "-"
  let three (bits : Nat) : String :=
    (if bits / 4 % 2 = 1 then "r" else "-") ++ (if bits / 2 % 2 = 1 then "w" else "-") ++
      (if bits % 2 = 1 then "x" else "-")
  kind ++ three (entry.mode / 64 % 8) ++ three (entry.mode / 8 % 8) ++ three (entry.mode % 8)

def list (arguments : List ByteText) : Script Nat :=
  withOptions "ls" "1aAdlRFrtShiptn" [("all", 'a'), ("almost-all", 'A'), ("directory", 'd')] 2
      arguments fun given => do
    let operands : List ByteText :=
      if given.operands.isEmpty then [['.']] else given.operands
    let shown (name : String) (entry : Option FileEntry) : String :=
      match given.has 'l', entry with
      | true, some entry =>
        let size := match entry.node with
          | .regular content => content.length
          | _ => 4096
        s!"{modeText entry} 1 root root {size} Jan  1 00:00 {name}"
      | _, _ => name
    let mut result := 0
    let mut plain : List String := []
    let mut directories : List (ByteText × Location) := []
    for operand in operands do
      match ← entryOf? true operand, ← entryOf? false operand with
      | some (location, ⟨.directory, _, _⟩), some (_, entry) =>
        if given.has 'd' then plain := plain ++ [shown operand.toText (some entry)]
        else directories := directories ++ [(operand, location)]
      | _, some (_, entry) => plain := plain ++ [shown operand.toText (some entry)]
      | _, none =>
        warn "ls" s!"cannot access '{operand.toText}': No such file or directory"
        result := 2
    let files := (← get).files
    for name in plain do sayLine name
    for (operand, location) in directories do
      let names := files.childNames location
      let names := if given.has 'a' then "." :: ".." :: names
        else if given.has 'A' then names
        else names.filter fun name => !name.startsWith "."
      let names := if given.has 'r' then names.reverse else names
      if 1 < operands.length then sayLine (operand.toText ++ ":")
      for name in names do sayLine (shown name (files.find? (location ++ [name])))
    printed "ls" result

/-! Making and removing -/

def modeOf? (before : Nat) (text : ByteText) : Option Nat :=
  if !text.isEmpty && text.all fun c => '0' ≤ c && c ≤ '7' then
    some ((Calculation.digitsIn 8 text).1 % 4096)
  else Builtin.changedMode before (text.length + 1) text

def setModeOf (path : ByteText) (mode : Nat → Option Nat) : Script Unit := do
  if let some (location, entry) ← entryOf? true path then
    if let some mode := mode entry.mode then
      modify fun machine => { machine with files := machine.files.setMode location mode }

def makeDirectories (arguments : List ByteText) : Script Nat :=
  withOptions "mkdir" "pm:v" [("parents", 'p'), ("mode", 'm')] 1 arguments fun given => do
    if given.operands.isEmpty then missingOperand "mkdir"
    else
      let mask := (← process).mask
      forAll given.operands fun operand => do
        let path ← pathOf operand
        let what := s!"cannot create directory '{operand.toText}'"
        let result ← changeFiles "mkdir" what fun files =>
          if given.has 'p' then
            match files.makeDirectory path with
            | .ok files =>
              if files.isDirectory path then .ok files else .error .fileExists
            | .error fault => .error fault
          else files.createNew path .directory (0o777 &&& (0o777 ^^^ mask))
        if result = 0 then
          if let some mode := given.value? 'm' then
            setModeOf operand fun before => modeOf? before mode
        return result

def removeDirectories (arguments : List ByteText) : Script Nat :=
  withOptions "rmdir" "pv" [("parents", 'p')] 1 arguments fun given => do
    if given.operands.isEmpty then missingOperand "rmdir"
    else forAll given.operands fun operand => do
      let path ← pathOf operand
      changeFiles "rmdir" s!"failed to remove '{operand.toText}'" fun files =>
        files.removeDirectory path

def remove (arguments : List ByteText) : Script Nat :=
  withOptions "rm" "rRfdvi" [("recursive", 'r'), ("force", 'f'), ("dir", 'd')] 1 arguments
      fun given => do
    if given.operands.isEmpty then
      if given.has 'f' then return 0 else missingOperand "rm"
    else forAll given.operands fun operand => do
      let path ← pathOf operand
      match (← get).files.entryAt false path with
      | .error fault =>
        if given.has 'f' && (fault = .noSuchFile || fault = .notADirectory) then return 0
        else
          warn "rm" s!"cannot remove '{operand.toText}': {fault.reason}"
          return 1
      | .ok (location, entry) =>
        if entry.node = .directory && (given.has 'r' || given.has 'R') then
          modify fun machine => { machine with files := machine.files.removeAll location }
          return 0
        else
          changeFiles "rm" s!"cannot remove '{operand.toText}'" fun files =>
            if entry.node = .directory && given.has 'd' then files.removeDirectory path
            else files.removeFile path

/-- The location that something is brought to: within a directory under its own name, or exactly
there. -/
def targetOf (source target : ByteText) : Script (Except Fault String) := do
  let path ← pathOf target
  if (← get).files.isDirectory path then
    return .ok (path ++ "/" ++ (baseName source).toText)
  else return .ok path

def copyAll (files : FileTree) (source target : Location) : FileTree :=
  let below := files.entries.filter fun entry => FileTree.isWithin source entry.1
  below.reverse.foldl (fun files (place, entry) =>
    files.create (target ++ place.drop source.length) entry.node entry.mode) files

def bring (command : String) (moves : Bool) (arguments : List ByteText) : Script Nat :=
  withOptions command "rRfapnvuT" [("recursive", 'r'), ("force", 'f')] 1 arguments fun given => do
    match given.operands.reverse with
    | [] =>
      warn command "missing file operand"
      return 1
    | [only] =>
      warn command s!"missing destination file operand after '{only.toText}'"
      return 1
    | target :: sources =>
      let isDirectory := (← get).files.isDirectory (← pathOf target)
      if 1 < sources.length && !isDirectory then
        warn command s!"target '{target.toText}' is not a directory"
        return 1
      else forAll sources.reverse fun source => do
        match ← entryOf? (!moves) source with
        | none =>
          warn command s!"cannot stat '{source.toText}': No such file or directory"
          return 1
        | some (location, entry) =>
          let copiesAll := given.has 'r' || given.has 'R' || given.has 'a'
          if !moves && entry.node = .directory && !copiesAll then
            warn command s!"-r not specified; omitting directory '{source.toText}'"
            return 1
          else
            match ← targetOf source target with
            | .error fault =>
              warn command s!"cannot create '{target.toText}': {fault.reason}"
              return 1
            | .ok path =>
              changeFiles command s!"cannot create '{target.toText}'" fun files => do
                let place ← files.locate (!moves) path
                if moves then files.move location place
                else if entry.node = .directory then return copyAll files location place
                else
                  let content := match entry.node with
                    | .regular content => content
                    | _ => []
                  let isNew := (files.find? place).isNone
                  let files ← files.writeFile path content
                  return if isNew then files.setMode place entry.mode else files

def link (arguments : List ByteText) : Script Nat :=
  withOptions "ln" "sfnvT" [("symbolic", 's'), ("force", 'f')] 1 arguments fun given => do
    match given.operands with
    | [] =>
      warn "ln" "missing file operand"
      return 1
    | source :: rest =>
      let target := rest.headD (baseName source)
      match ← targetOf source target with
      | .error _ => return 1
      | .ok path =>
        if given.has 'f' then
          modify fun machine =>
            { machine with files := (machine.files.removeFile path).toOption.getD machine.files }
        if given.has 's' then
          changeFiles "ln" s!"failed to create symbolic link '{target.toText}'" fun files =>
            files.makeLink path source.toText
        else
          match ← entryOf? false source with
          | some (_, entry) =>
            changeFiles "ln" s!"failed to create hard link '{target.toText}'" fun files =>
              files.createNew path entry.node entry.mode
          | none =>
            warn "ln" s!"failed to access '{source.toText}': No such file or directory"
            return 1

def touch (arguments : List ByteText) : Script Nat :=
  withOptions "touch" "acmt:d:r:h" [("no-create", 'c')] 1 arguments fun given => do
    if given.operands.isEmpty then
      warn "touch" "missing file operand"
      return 1
    else forAll given.operands fun operand => do
      if (← entryOf? true operand).isSome || given.has 'c' then return 0
      else
        match ← openFile operand .append with
        | .ok _ => return 0
        | .error fault =>
          warn "touch" s!"cannot touch '{operand.toText}': {fault.reason}"
          return 1

def changeMode (arguments : List ByteText) : Script Nat := do
  let operands : List ByteText := arguments.filter fun argument =>
    argument ≠ ['-', 'R'] && argument ≠ ['-', 'v'] && argument ≠ ['-', 'f']
  match operands with
  | [] => missingOperand "chmod"
  | [mode] =>
    warn "chmod" s!"missing operand after '{mode.toText}'"
    return 1
  | mode :: paths =>
    if (modeOf? 0 mode).isNone then
      warn "chmod" s!"invalid mode: '{mode.toText}'"
      return 1
    else forAll paths fun path => do
      if (← entryOf? true path).isSome then
        setModeOf path fun before => modeOf? before mode
        return 0
      else
        warn "chmod" s!"cannot access '{path.toText}': No such file or directory"
        return 1

def makeTemporary (arguments : List ByteText) : Script Nat :=
  withOptions "mktemp" "dup:qt" [("directory", 'd'), ("dry-run", 'u')] 1 arguments fun given => do
    let number := ByteText.ofString (toString (100000 + (← get).files.nextInode))
    let template := (given.operands.head?).getD "/tmp/tmp.XXXXXXXXXX".toList
    let start := (template.reverse.dropWhile (· = 'X')).reverse
    let padding := List.replicate (template.length - start.length - number.length) 'a'
    let path := start ++ padding ++ number
    if template.length < start.length + 3 then
      warn "mktemp" s!"too few X's in template '{template.toText}'"
      return 1
    else
      let made ←
        if given.has 'u' then pure 0
        else
          let place ← pathOf path
          changeFiles "mktemp"
            s!"failed to create file via template '{template.toText}'" fun files =>
            files.createNew place (if given.has 'd' then .directory else .regular [])
              (if given.has 'd' then 0o700 else 0o600)
      if made = 0 then say (path ++ ['\n'])
      return made

end DeviceRig.Shell.Tool
