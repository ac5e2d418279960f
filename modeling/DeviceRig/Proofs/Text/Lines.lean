import DeviceRig.Proofs.Text.Utf8
import DeviceRig.Text.Lines

/-!
# Lines of a byte stream

A stream that ends with a line feed is cut into lines on its own, whatever
follows it, also when it is read as text first; a line without ends of its own
is one line.
-/
namespace DeviceRig.Text

theorem linesFrom_append {α : Type} [DecidableEq α] (feed mark : α) (current : List α)
    (found : Array (List α)) (text rest : List α) :
    linesFrom feed mark current found (text ++ feed :: rest) =
      linesFrom feed mark [] (linesFrom feed mark current found (text ++ [feed])) rest := by
  induction text generalizing current found with
  | nil => simp [linesFrom]
  | cons c text ih =>
    by_cases hFeed : c = feed
    · simp only [List.cons_append, linesFrom, if_pos hFeed, ih]
    · simp only [List.cons_append, linesFrom, if_neg hFeed, ih]

theorem toList_linesFrom {α : Type} [DecidableEq α] (feed mark : α) (current : List α)
    (found : Array (List α)) (text : List α) :
    (linesFrom feed mark current found text).toList =
      found.toList ++ (linesFrom feed mark current #[] text).toList := by
  induction text generalizing current found with
  | nil =>
    cases current with
    | nil => simp [linesFrom]
    | cons c current => simp [linesFrom]
  | cons c text ih =>
    by_cases hFeed : c = feed
    · simp only [linesFrom, if_pos hFeed]
      rw [ih [] (found.push _), ih [] (Array.push #[] _)]
      simp
    · simp only [linesFrom, if_neg hFeed]
      exact ih (c :: current) found

theorem linesFrom_line {α : Type} [DecidableEq α] {feed mark : α} {line : List α}
    (hFeed : feed ∉ line) (current : List α) (found : Array (List α)) :
    linesFrom feed mark current found (line ++ [feed]) =
      found.push (dropReturn mark (current.reverse ++ line)) := by
  induction line generalizing current with
  | nil => simp [linesFrom]
  | cons c line ih =>
    have hFirst : c ≠ feed := fun h => hFeed (h ▸ List.mem_cons_self)
    have hRest := ih (fun h => hFeed (List.mem_cons_of_mem c h)) (c :: current)
    rw [List.cons_append, linesFrom, if_neg hFirst, hRest]
    simp

theorem byteLines_append (text rest : List UInt8) :
    byteLines (text ++ 10 :: rest) = byteLines (text ++ [10]) ++ byteLines rest := by
  rw [byteLines, linesFrom_append, toList_linesFrom]
  rfl

theorem byteLines_feed {line : List UInt8} (hFeed : 10 ∉ line) :
    byteLines (line ++ [10]) = [dropReturn 13 line] := by
  rw [byteLines, linesFrom_line hFeed]
  rfl

theorem byteLines_line {line : List UInt8} (hFeed : 10 ∉ line) (hReturn : 13 ∉ line) :
    byteLines (line ++ [10]) = [line] := by
  have hLast : line.getLast? ≠ some 13 := fun h => hReturn (List.mem_of_getLast? h)
  rw [byteLines_feed hFeed, dropReturn, if_neg hLast]

def ended (lines : List (List UInt8)) : List UInt8 :=
  lines.flatMap (· ++ [10])

theorem byteLines_ended {lines : List (List UInt8)} (hFeed : ∀ line ∈ lines, 10 ∉ line) :
    byteLines (ended lines) = lines.map (dropReturn 13) := by
  induction lines with
  | nil => rfl
  | cons line rest ih =>
    have hLine := hFeed line List.mem_cons_self
    have hRest := ih fun other hOther => hFeed other (List.mem_cons_of_mem line hOther)
    rw [ended, List.flatMap_cons, List.append_assoc, List.singleton_append, byteLines_append,
      byteLines_feed hLine, List.map_cons, ← hRest]
    rfl

/-- Reading bytes as text and cutting them into lines may be done up to a line feed and behind
it. -/
theorem lines_lossy_append (bytes rest : List UInt8) :
    lines (Utf8.lossy (bytes ++ 10 :: rest)) =
      lines (Utf8.lossy (bytes ++ [10])) ++ lines (Utf8.lossy rest) := by
  have hFirst : (Utf8.lossy (bytes ++ [10])).toList = (Utf8.lossy bytes).toList ++ ['\n'] := by
    rw [Utf8.toList_lossy_append, Utf8.lossy_nil]
    rfl
  rw [lines, lines, lines, hFirst, Utf8.toList_lossy_append, linesFrom_append, toList_linesFrom,
    List.map_append]

end DeviceRig.Text
