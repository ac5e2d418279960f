import DeviceRig.Process.Shell.Pattern

/-!
Fields. Expanding a word gives a row of fragments: characters, of which some are quoted and some
come from an expansion, and places where one argument ends and the next begins. The row is cut into
fields at the separators that come from expansions; blanks among these vanish, and every other one
ends a field.
-/
namespace DeviceRig.Shell

inductive Fragment where
  | char (c : Char) (quoted : Bool) (expanded : Bool)
  | mark
  | border
deriving DecidableEq, Repr, Inhabited

namespace Fragment

def ofText (text : ByteText) (quoted expanded : Bool) : List Fragment :=
  (if quoted then [.mark] else []) ++ text.map fun c => .char c quoted expanded

def patternChars (fragments : List Fragment) : List PatternChar :=
  fragments.filterMap fun
    | .char c quoted _ => some (c, quoted)
    | .mark | .border => none

def text (fragments : List Fragment) : ByteText :=
  (patternChars fragments).map Prod.fst

def joinedText (fragments : List Fragment) : ByteText :=
  fragments.filterMap fun
    | .char c _ _ => some c
    | .border => some '\x00'
    | .mark => none

def dropStart : Nat → List Fragment → List Fragment
  | _, [] => []
  | count, .mark :: rest => .mark :: dropStart count rest
  | 0, fragments => fragments
  | count + 1, _ :: rest => dropStart count rest

def takeStart : Nat → List Fragment → List Fragment
  | _, [] => []
  | count, .mark :: rest => .mark :: takeStart count rest
  | 0, _ :: rest => takeStart 0 rest
  | count + 1, first :: rest => first :: takeStart count rest

end Fragment

/-- A field as it is put together: its characters, and whether it is there at all. -/
structure FieldSoFar where
  chars : List PatternChar
  started : Bool
deriving Inhabited

def FieldSoFar.empty : FieldSoFar := ⟨[], false⟩

/-- Fields that are complete, in reverse order, the one that is put together, and whether a
separator may follow that ends no further field. -/
structure FieldRow where
  complete : List (List PatternChar)
  current : FieldSoFar
  afterBlank : Bool
deriving Inhabited

namespace FieldRow

def close (row : FieldRow) : FieldRow :=
  if row.current.started then
    { row with complete := row.current.chars.reverse :: row.complete, current := .empty }
  else row

def closeAlways (row : FieldRow) : FieldRow :=
  { row with complete := row.current.chars.reverse :: row.complete, current := .empty }

def add (separators : ByteText) (row : FieldRow) (fragment : Fragment) : FieldRow :=
  match fragment with
  | .mark => { row with current := { row.current with started := true }, afterBlank := false }
  | .border => { row.close with afterBlank := false }
  | .char c quoted expanded =>
    if expanded && !quoted && separators.contains c then
      if c = ' ' || c = '\t' || c = '\n' then
        if row.current.started then { row.close with afterBlank := true } else row
      else if row.current.started then { row.close with afterBlank := false }
      else if row.afterBlank then { row with afterBlank := false }
      else row.closeAlways
    else
      { row with current := ⟨(c, quoted) :: row.current.chars, true⟩, afterBlank := false }

end FieldRow

def splitFields (separators : ByteText) (fragments : List Fragment) : List (List PatternChar) :=
  let row := fragments.foldl (FieldRow.add separators) ⟨[], .empty, false⟩
  row.close.complete.reverse

def fieldText (field : List PatternChar) : ByteText :=
  field.map Prod.fst

end DeviceRig.Shell
