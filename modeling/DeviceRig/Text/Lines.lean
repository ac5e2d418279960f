import DeviceRig.Text.Utf8

/-!
Lines. A line ends at a line feed; a carriage return right before the line feed belongs to the end
of the line. What follows the last line feed is a line unless it is empty.
-/
namespace DeviceRig.Text

def dropReturn {α : Type} [DecidableEq α] (mark : α) (line : List α) : List α :=
  if line.getLast? = some mark then line.dropLast else line

/-- Splits at line feeds; `current` holds the unfinished line, last first. -/
def linesFrom {α : Type} [DecidableEq α] (feed mark : α) (current : List α)
    (found : Array (List α)) : List α → Array (List α)
  | [] => if current.isEmpty then found else found.push current.reverse
  | c :: rest =>
    if c = feed then linesFrom feed mark [] (found.push (dropReturn mark current.reverse)) rest
    else linesFrom feed mark (c :: current) found rest

def lines (text : String) : List String :=
  (linesFrom '\n' '\r' [] #[] text.toList).toList.map String.ofList

/-- The lines of a byte stream, before they are read as text. -/
def byteLines (bytes : List UInt8) : List (List UInt8) :=
  (linesFrom 10 13 [] #[] bytes).toList

/-- The lines of a byte stream that are text, up to the first one that is not. -/
def readableLines (bytes : List UInt8) : List String :=
  ((byteLines bytes).map Utf8.text?).takeWhile Option.isSome |>.filterMap id

end DeviceRig.Text
