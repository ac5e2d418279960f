/-!
Natural numbers in options and variables: decimal digits with at most one plus sign before them and
no more than a limit allows.
-/
namespace DeviceRig.Text

inductive NumberFlaw where
  | empty
  | badDigit
  | tooLarge
deriving DecidableEq, Repr, Inhabited

def NumberFlaw.message : NumberFlaw → String
  | .empty => "cannot parse integer from empty string"
  | .badDigit => "invalid digit found in string"
  | .tooLarge => "number too large to fit in target type"

/-- Reads digits behind a value. The first flaw from the left is the one that is told. -/
def digitsBehind (limit value : Nat) : List Char → Except NumberFlaw Nat
  | [] => .ok value
  | c :: rest =>
    if !c.isDigit then .error .badDigit
    else
      let more := value * 10 + (c.toNat - '0'.toNat)
      if limit < more then .error .tooLarge else digitsBehind limit more rest

def naturalChars (limit : Nat) : List Char → Except NumberFlaw Nat
  | [] => .error .empty
  | '+' :: [] => .error .badDigit
  | '+' :: digits => digitsBehind limit 0 digits
  | digits => digitsBehind limit 0 digits

def natural (limit : Nat) (text : String) : Except NumberFlaw Nat :=
  naturalChars limit text.toList

def wordLimit : Nat := 0xffffffff

def longLimit : Nat := 0xffffffffffffffff

end DeviceRig.Text
