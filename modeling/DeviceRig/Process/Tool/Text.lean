import DeviceRig.Process.Tool.Basic

/-!
Tools that take texts apart and put them together: whole texts, their starts and ends, counts,
characters, fields and orders of lines.
-/
namespace DeviceRig.Shell.Tool

open Script

/-! Whole texts -/

def copyPieces (channel : Nat) : Script (Except Fault Unit) := do
  match ← takeFrom channel with
  | .error fault => return .error fault
  | .ok (pieces, endsAt) =>
    let mut refused : Option Fault := none
    for (time, text) in pieces do
      passUntil (some (max time (← get).now))
      if refused.isNone then
        match ← write 1 text with
        | .ok () => pure ()
        | .error fault => refused := some fault
    match refused with
    | some fault => return .error fault
    | none =>
      passUntil (endsAt.map (max (← get).now))
      return .ok ()

structure LineLook where
  numbers : Bool
  numbersFilled : Bool
  squeezes : Bool
  showsEnds : Bool
  showsTabs : Bool
  showsOthers : Bool

namespace LineLook

def isPlain (look : LineLook) : Bool :=
  !(look.numbers || look.numbersFilled || look.squeezes || look.showsEnds || look.showsTabs ||
    look.showsOthers)

def visible (c : Char) : ByteText :=
  let low (n : Nat) : ByteText :=
    if n < 32 then ['^', Char.ofNat (n + 64)] else if n = 127 then ['^', '?'] else [Char.ofNat n]
  if c = '\t' || c = '\n' then [c]
  else if c.toNat < 128 then low c.toNat
  else 'M' :: '-' :: low (c.toNat - 128)

def line (look : LineLook) (number : Option Nat) (text : ByteText) : ByteText :=
  let shown := text.flatMap fun c =>
    if c = '\t' && look.showsTabs then ['^', 'I']
    else if look.showsOthers then visible c
    else [c]
  let label := match number with
    | some number => paddedNumber 6 number ++ ['\t']
    | none => []
  label ++ shown ++ if look.showsEnds then ['$'] else []

/-- The lines as they are shown, from a number on; of lines without anything in a row one is. -/
def lines (look : LineLook) (next : Nat) (afterEmpty : Bool) : List ByteText → List ByteText
  | [] => []
  | text :: rest =>
    if look.squeezes && afterEmpty && text.isEmpty then look.lines next true rest
    else
      let isNumbered := if look.numbersFilled then !text.isEmpty else look.numbers
      look.line (if isNumbered then some next else none) text ::
        look.lines (if isNumbered then next + 1 else next) text.isEmpty rest

end LineLook

def concatenate (arguments : List ByteText) : Script Nat :=
  withOptions "cat" "nbsEeTtvuA" [("number", 'n'), ("show-ends", 'E'), ("show-all", 'A')] 1
      arguments fun given => do
    let look : LineLook :=
      ⟨given.has 'n', given.has 'b', given.has 's', given.has 'E' || given.has 'e' || given.has 'A',
        given.has 'T' || given.has 't' || given.has 'A',
        given.has 'v' || given.has 'e' || given.has 't' || given.has 'A'⟩
    if look.isPlain then
      let mut result := 0
      for operand in inputsOf given.operands do
        match ← inputOf operand with
        | .error fault =>
          warn "cat" s!"{operand.toText}: {fault.reason}"
          result := 1
        | .ok channel =>
          match ← copyPieces channel with
          | .ok () => pure ()
          | .error fault =>
            let what := if fault = .noSpaceLeft then "write error" else operand.toText
            warn "cat" s!"{what}: {fault.reason}"
            result := 1
      return result
    else
      let (text, isAll) ← allText "cat" given.operands
      let shown := unlines (look.lines 1 false (linesOf text))
      say (if text.getLast? = some '\n' then shown else shown.dropLast)
      printed "cat" (if isAll then 0 else 1)

def copyToFiles (arguments : List ByteText) : Script Nat :=
  withOptions "tee" "ai" [("append", 'a')] 1 arguments fun given => do
    let mut result := 0
    let mut channels : Array Nat := #[]
    for operand in given.operands do
      match ← openFile operand (if given.has 'a' then .append else .write) with
      | .ok channel => channels := channels.push channel
      | .error fault =>
        warn "tee" s!"{operand.toText}: {fault.reason}"
        result := 1
    match ← textOf "tee" ['-'] with
    | none => return 1
    | some text =>
      say text
      -- A descriptor of its own for every file, one after the other.
      for channel in channels do
        setDescriptor 9 (some channel)
        match ← write 9 text with
        | .ok () => pure ()
        | .error _ => result := 1
      setDescriptor 9 none
      printed "tee" result

def repetitions : Nat := 40

def repeatText (arguments : List ByteText) : Script Nat := do
  let words := if arguments.isEmpty then [['y']] else arguments
  let line := [' '].intercalate words ++ ['\n']
  let chunk := (List.replicate (65536 / line.length + 1) line).flatten
  for _ in List.range repetitions do
    match ← write 1 chunk with
    | .ok () => pure ()
    | .error fault =>
      warn "yes" s!"standard output: {fault.reason}"
      return 1
  throw .endless

/-! Starts and ends -/

def signedCount? (text : ByteText) : Option (Option Char × Nat) :=
  let (sign, digits) := match text with
    | '-' :: digits => (some '-', digits)
    | '+' :: digits => (some '+', digits)
    | _ => (none, text)
  let number := digits.takeWhile isDigit
  let scale? : Option Nat := match String.ofList (digits.drop number.length) with
    | "" => some 1
    | "b" => some 512
    | "k" | "K" => some 1024
    | "kB" => some 1000
    | "M" => some 1048576
    | _ => none
  match natural? number, scale? with
  | some count, some scale => some (sign, count * scale)
  | _, _ => none

/-- Arguments with a bare number as an option replaced by the option that it is short for. -/
def withBareNumber (arguments : List ByteText) : List ByteText :=
  match arguments with
  | ('-' :: c :: rest) :: others =>
    if isDigit c then
      let digits := (c :: rest).takeWhile isDigit
      let letters := (c :: rest).drop digits.length
      let option := if letters = ['c'] then 'c' else 'n'
      ['-', option] :: digits :: others
    else arguments
  | _ => arguments

/-- The part of every text that is asked for, under headings if there are several. -/
def showParts (command : String) (given : Given) (part : ByteText → ByteText) : Script Nat := do
  let operands := inputsOf given.operands
  let isTitled := (1 < operands.length && !given.has 'q') || given.has 'v'
  let mut result := 0
  let mut isFirst := true
  for operand in operands do
    let read ← match ← inputOf operand with
      | .ok channel => readFrom channel
      | .error fault => pure (.error fault)
    match read with
    | .error fault =>
      let what := if fault = .isADirectory then "error reading" else "cannot open"
      let how := if fault = .isADirectory then ": " else " for reading: "
      warn command s!"{what} '{operand.toText}'{how}{fault.reason}"
      result := 1
    | .ok text =>
      if isTitled then
        let name := if isStandardInput operand then "standard input" else operand.toText
        sayLine (if isFirst then s!"==> {name} <==" else s!"\n==> {name} <==")
      isFirst := false
      say (part text)
  printed command result

/-- A text without its last lines or characters, or its first ones, so many of them. -/
def cutText (lines fromEnd keeps : Bool) (count : Nat) (text : ByteText) : ByteText :=
  let pieces : List ByteText :=
    if lines then
      let all := linesOf text
      let isEnded := text.getLast? = some '\n'
      all.zipIdx.map fun (line, index) =>
        if index + 1 = all.length && !isEnded then line else line ++ ['\n']
    else text.map fun c => [c]
  let place := if fromEnd then pieces.length - count else min count pieces.length
  (if keeps then pieces.take place else pieces.drop place).flatten

def firstPart (arguments : List ByteText) : Script Nat :=
  withOptions "head" "n:c:qvz" [("lines", 'n'), ("bytes", 'c'), ("quiet", 'q')] 1
      (withBareNumber arguments) fun given => do
    let lines := (given.last? ['n', 'c']).getD 'n' = 'n'
    let text := ((given.value? (if lines then 'n' else 'c')).getD "10".toList)
    match signedCount? text with
    | none =>
      let unit := if lines then "lines" else "bytes"
      warn "head" s!"invalid number of {unit}: '{text.toText}'"
      return 1
    | some (sign, count) =>
      -- Only so much of an endless device as is shown is read.
      match lines || sign = some '-', given.operands with
      | false, [operand] =>
        match ← inputOf operand with
        | .ok channel =>
          setDescriptor 9 (some channel)
          match ← readCount 9 count with
          | .ok text =>
            say text
            printed "head" 0
          | .error fault =>
            warn "head" s!"error reading '{operand.toText}': {fault.reason}"
            return 1
        | .error fault =>
          warn "head" s!"cannot open '{operand.toText}' for reading: {fault.reason}"
          return 1
      | _, _ => showParts "head" given (cutText lines (sign = some '-') true count)

def lastPart (arguments : List ByteText) : Script Nat :=
  withOptions "tail" "n:c:qvfFz" [("lines", 'n'), ("bytes", 'c'), ("quiet", 'q')] 1
      (withBareNumber arguments) fun given => do
    let lines := (given.last? ['n', 'c']).getD 'n' = 'n'
    let text := ((given.value? (if lines then 'n' else 'c')).getD "10".toList)
    match signedCount? text with
    | none =>
      let unit := if lines then "lines" else "bytes"
      warn "tail" s!"invalid number of {unit}: '{text.toText}'"
      return 1
    | some (sign, count) =>
      let fromStart := sign = some '+'
      let count := if fromStart then count - 1 else count
      showParts "tail" given (cutText lines (!fromStart) false count)

/-! Counts -/

structure TextCount where
  lines : Nat
  words : Nat
  bytes : Nat
  longest : Nat

namespace TextCount

def isBlankChar (c : Char) : Bool := c = ' ' || ('\t' ≤ c && c ≤ '\r')

def of (text : ByteText) : TextCount :=
  let (words, _) := text.foldl (fun (state : Nat × Bool) c =>
    if isBlankChar c then (state.1, false)
    else (if state.2 then state.1 else state.1 + 1, true)) (0, false)
  ⟨text.count '\n', words, text.length,
    (linesOf text).foldl (fun longest line => max longest line.length) 0⟩

def add (a b : TextCount) : TextCount :=
  ⟨a.lines + b.lines, a.words + b.words, a.bytes + b.bytes, max a.longest b.longest⟩

end TextCount

def count (arguments : List ByteText) : Script Nat :=
  withOptions "wc" "lwcmL" [("lines", 'l'), ("words", 'w'), ("bytes", 'c'), ("chars", 'm')] 1
      arguments fun given => do
    let isAny := !given.letters.isEmpty
    let wanted (count : TextCount) : List Nat :=
      (if given.has 'l' || !isAny then [count.lines] else []) ++
        (if given.has 'w' || !isAny then [count.words] else []) ++
        (if given.has 'm' then [count.bytes] else []) ++
        (if given.has 'c' || !isAny then [count.bytes] else []) ++
        (if given.has 'L' then [count.longest] else [])
    let operands := inputsOf given.operands
    let mut rows : List (TextCount × Option ByteText) := []
    let mut isAll := true
    let mut isPiped := false
    for operand in operands do
      if let .ok channel ← inputOf operand then
        if let some (.source ..) ← channel? channel then isPiped := true
        if let some .nothing ← channel? channel then isPiped := true
      match ← textOf "wc" operand with
      | some text =>
        let name := if given.operands.isEmpty then none else some operand
        rows := rows ++ [(.of text, name)]
      | none => isAll := false
    let total := (rows.map Prod.fst).foldl TextCount.add ⟨0, 0, 0, 0⟩
    if 1 < operands.length then rows := rows ++ [(total, some "total".toList)]
    let columns := (wanted total).length
    let width :=
      if operands.length = 1 && columns = 1 then 1
      else if isPiped then 7
      else (decimal total.bytes).length
    for (count, name) in rows do
      let numbers := [' '].intercalate ((wanted count).map (paddedNumber width))
      let label := match name with
        | some name => ' ' :: name
        | none => []
      say (numbers ++ label ++ ['\n'])
    printed "wc" (if isAll then 0 else 1)

/-! Characters -/

/-- A set of characters in order: an order of characters, ranges, classes and repetitions, up to
the end. None if a range goes backwards. -/
def charSet : Nat → ByteText → Option (List Char)
  | 0, _ => some []
  | _ + 1, [] => some []
  | fuel + 1, text =>
    let class? : Option (List Char × ByteText) := match text with
      | '[' :: ':' :: rest =>
        let name := rest.takeWhile (· ≠ ':')
        match rest.drop name.length, characterClass? (String.ofList name) with
        | ':' :: ']' :: after, some holds =>
          some (((List.range 256).map Char.ofNat).filter holds, after)
        | _, _ => none
      | _ => none
    match class? with
    | some (members, after) => (charSet fuel after).map fun others => members ++ others
    | none =>
      let one : ByteText → Char × ByteText
        | '\\' :: rest => escapeAt rest
        | c :: rest => (c, rest)
        | [] => ('\x00', [])
      let (first, after) := one text
      let first := if first = '\\' && after = text.drop 1 && !after.isEmpty then
          after.headD '\\' else first
      let after := if text.head? = some '\\' && after = text.drop 1 then text.drop 2 else after
      match after with
      | '-' :: last :: rest =>
        let (last, rest) := one (last :: rest)
        if last < first then none
        else
          let members := (List.range (last.toNat - first.toNat + 1)).map fun offset =>
            Char.ofNat (first.toNat + offset)
          (charSet fuel rest).map fun others => members ++ others
      | _ => (charSet fuel after).map fun others => first :: others

def squeezed (members : List Char) (text : ByteText) : ByteText :=
  (text.foldl (fun (kept : List Char) c =>
    if kept.head? = some c && members.contains c then kept else c :: kept) []).reverse

def translate (arguments : List ByteText) : Script Nat :=
  withLeadingOptions "tr" "cCdst" [("delete", 'd'), ("squeeze-repeats", 's'), ("complement", 'c')] 1
      arguments fun given => do
    let deletes := given.has 'd'
    let squeezes := given.has 's'
    let complements := given.has 'c' || given.has 'C'
    let set? (text : ByteText) := charSet (text.length + 1) text
    match given.operands with
    | [] =>
      warn "tr" "missing operand"
      return 1
    | first :: rest =>
      if rest.isEmpty && !deletes && !squeezes then
        warn "tr" s!"missing operand after '{first.toText}'"
        return 1
      else if 1 < rest.length || (deletes && !squeezes && !rest.isEmpty) then
        warn "tr" s!"extra operand '{((rest.drop 1).headD (rest.headD [])).toText}'"
        return 1
      else
        match set? first, set? (rest.headD []) with
        | some members, some images =>
          let members := if complements then
              ((List.range 256).map Char.ofNat).filter fun c => !members.contains c
            else members
          match ← textOf "tr" ['-'] with
          | none => return 1
          | some text =>
            if deletes then
              let kept := text.filter fun c => !members.contains c
              say (if squeezes then squeezed images kept else kept)
            else if rest.isEmpty then say (squeezed members text)
            else
              -- The last image stands for all members beyond.
              let last := images.getLast?.getD ' '
              let image (c : Char) : Char :=
                match (members.zipIdx.reverse.find? fun entry => entry.1 = c) with
                | some (_, index) => images[index]?.getD last
                | none => c
              let translated := text.map image
              say (if squeezes then squeezed images translated else translated)
            printed "tr" 0
        | _, _ =>
          warn "tr" "range-endpoints are in reverse collating sequence order"
          return 1

def reverseLines (arguments : List ByteText) : Script Nat := do
  let (text, isAll) ← allText "rev" arguments
  say (unlines ((linesOf text).map List.reverse))
  printed "rev" (if isAll then 0 else 1)

def reverseOrder (arguments : List ByteText) : Script Nat := do
  let (text, isAll) ← allText "tac" arguments
  say (unlines (linesOf text).reverse)
  printed "tac" (if isAll then 0 else 1)

def numberLines (arguments : List ByteText) : Script Nat :=
  withOptions "nl" "b:" [] 1 arguments fun given => do
    let (text, isAll) ← allText "nl" given.operands
    let all := given.value? 'b' = some ['a']
    let (rows, _) := (linesOf text).foldl (fun (state : List ByteText × Nat) line =>
      if line.isEmpty && !all then ("       ".toList :: state.1, state.2)
      else ((paddedNumber 6 state.2 ++ '\t' :: line) :: state.1, state.2 + 1)) ([], 1)
    say (unlines rows.reverse)
    printed "nl" (if isAll then 0 else 1)

def foldLines (arguments : List ByteText) : Script Nat :=
  withOptions "fold" "w:bs" [("width", 'w')] 1 arguments fun given => do
    let width := max 1 (((given.value? 'w').bind natural?).getD 80)
    let (text, isAll) ← allText "fold" given.operands
    let rows := (linesOf text).flatMap fun line =>
      if line.isEmpty then [line]
      else (List.range ((line.length + width - 1) / width)).map fun index =>
        (line.drop (index * width)).take width
    let folded := unlines rows
    say (if text.getLast? = some '\n' then folded else folded.dropLast)
    printed "fold" (if isAll then 0 else 1)

def pasteLines (arguments : List ByteText) : Script Nat :=
  withOptions "paste" "d:s" [("delimiters", 'd'), ("serial", 's')] 1 arguments fun given => do
    let delimiter := ((given.value? 'd').getD ['\t']).take 1
    let texts ← (inputsOf given.operands).mapM (textOf "paste")
    let columns := (texts.filterMap id).map linesOf
    if given.has 's' then say (unlines (columns.map fun lines => delimiter.intercalate lines))
    else
      let height := columns.foldl (fun height lines => max height lines.length) 0
      say (unlines ((List.range height).map fun row =>
        delimiter.intercalate (columns.map fun lines => lines[row]?.getD [])))
    printed "paste" (if texts.all Option.isSome then 0 else 1)

/-! Fields -/

/-- The places that a list of ranges names, the first being one; none if it is no such list. -/
def placesIn? (text : ByteText) : Option (Nat → Bool) :=
  let ranges := (String.ofList text).splitOn ","
  let range? (range : String) : Option (Nat → Bool) :=
    match (range.splitOn "-").map String.toList with
    | [one] => (natural? one).bind fun place => if place = 0 then none else some (· = place)
    | [[], last] => (natural? last).map fun last place => place ≤ last
    | [first, []] => (natural? first).map fun first place => first ≤ place
    | [first, last] =>
      match natural? first, natural? last with
      | some first, some last =>
        if first = 0 || last < first then none
        else some fun place => first ≤ place && place ≤ last
      | _, _ => none
    | _ => none
  (ranges.mapM range?).map fun holds place => holds.any fun holds => holds place

def splitAt (delimiter : Char) (text : ByteText) : List ByteText :=
  text.foldr (fun c (parts : List ByteText) =>
    match parts with
    | [] => [[c]]
    | first :: others => if c = delimiter then [] :: first :: others else (c :: first) :: others)
    [[]]

def cutLines (arguments : List ByteText) : Script Nat :=
  withOptions "cut" "b:c:f:d:sn" [("fields", 'f'), ("delimiter", 'd'), ("characters", 'c'),
      ("bytes", 'b'), ("only-delimited", 's')] 1 arguments fun given => do
    match given.last? ['b', 'c', 'f'] with
    | none =>
      warn "cut" "you must specify a list of bytes, characters, or fields"
      return 1
    | some kind =>
      match placesIn? ((given.value? kind).getD []) with
      | none =>
        warn "cut" "invalid field value"
        return 1
      | some isWanted =>
        let (text, isAll) ← allText "cut" given.operands
        let delimiter := ((given.value? 'd').getD ['\t']).headD '\t'
        let kept {α : Type} (items : List α) : List α :=
          (items.zipIdx.filter fun entry => isWanted (entry.2 + 1)).map Prod.fst
        let line (text : ByteText) : Option ByteText :=
          if kind = 'f' then
            if text.contains delimiter then
              some ([delimiter].intercalate (kept (splitAt delimiter text)))
            else if given.has 's' then none
            else some text
          else some (kept text)
        say (unlines ((linesOf text).filterMap line))
        printed "cut" (if isAll then 0 else 1)

/-! Orders -/

def leadingNumber (line : ByteText) : Int :=
  let start := line.dropWhile isBlank
  let (negative, body) := match start with
    | '-' :: rest => (true, rest)
    | _ => (false, start)
  let whole := body.takeWhile isDigit
  let places := match body.drop whole.length with
    | '.' :: rest => (rest.takeWhile isDigit).take 9
    | _ => []
  let digits := whole ++ places ++ List.replicate (9 - places.length) '0'
  let value : Int := ((Calculation.digitsIn 10 digits).1 : Int)
  if negative then -value else value

def sortKey (separator : Option Char) (key : ByteText) (line : ByteText) : ByteText :=
  let number (text : ByteText) : Nat := (natural? (text.takeWhile isDigit)).getD 0
  let (first, last) := match (String.ofList key).splitOn "," with
    | [first, last] => (number first.toList, some (number last.toList))
    | first :: _ => (number first.toList, none)
    | [] => (1, none)
  let fields := match separator with
    | some separator => splitAt separator line
    | none => (splitAt ' ' line).filter fun field => !field.isEmpty
  let lastPlace := last.getD fields.length
  [separator.getD ' '].intercalate ((fields.take lastPlace).drop (first - 1))

def sortLines (arguments : List ByteText) : Script Nat :=
  withOptions "sort" "nrufbk:t:gsVhcmo:" [("numeric-sort", 'n'), ("reverse", 'r'), ("unique", 'u')]
      2 arguments fun given => do
    let (text, isAll) ← allText "sort" given.operands
    let separator := (given.value? 't').bind List.head?
    let key := given.value? 'k'
    let keyHas (letter : Char) := key.any fun key => key.contains letter
    let numeric := given.has 'n' || given.has 'g' || keyHas 'n'
    let backwards := given.has 'r' || keyHas 'r'
    let part (line : ByteText) : ByteText :=
      let whole := match key with
        | some key => sortKey separator key line
        | none => line
      let whole := if given.has 'b' then whole.dropWhile isBlank else whole
      if given.has 'f' then whole.map Char.toUpper else whole
    let compare (a b : ByteText) : Ordering :=
      let byKey :=
        if numeric then Ord.compare (leadingNumber (part a)) (leadingNumber (part b))
        else Ord.compare (part a) (part b)
      if backwards then byKey.swap else byKey
    let compareAll (a b : ByteText) : Ordering :=
      match compare a b with
      | .eq =>
        if given.has 'u' || given.has 's' then .eq
        else if given.has 'r' then (Ord.compare a b).swap
        else Ord.compare a b
      | order => order
    let sorted := (linesOf text).mergeSort fun a b => compareAll a b ≠ .gt
    if given.has 'c' then
      return if linesOf text = sorted then 0 else 1
    else
      let kept := if given.has 'u' then
          (sorted.foldl (fun (kept : List ByteText) line =>
            match kept with
            | last :: _ => if compare last line = .eq then kept else line :: kept
            | [] => [line]) []).reverse
        else sorted
      say (unlines kept)
      printed "sort" (if isAll then 0 else 2)

def uniqueLines (arguments : List ByteText) : Script Nat :=
  withOptions "uniq" "cdui" [("count", 'c'), ("repeated", 'd'), ("unique", 'u')] 1 arguments
      fun given => do
    let (text, isAll) ← allText "uniq" (given.operands.take 1)
    let same (a b : ByteText) : Bool :=
      if given.has 'i' then a.map Char.toLower = b.map Char.toLower else a = b
    let groups := ((linesOf text).foldl (fun (groups : List (ByteText × Nat)) line =>
      match groups with
      | (first, count) :: others =>
        if same first line then (first, count + 1) :: others else (line, 1) :: groups
      | [] => [(line, 1)]) []).reverse
    let kept := groups.filter fun (_, count) =>
      (!given.has 'd' || 1 < count) && (!given.has 'u' || count = 1)
    say (unlines (kept.map fun (line, count) =>
      if given.has 'c' then paddedNumber 7 count ++ ' ' :: line else line))
    printed "uniq" (if isAll then 0 else 1)

/-! Numbers -/

def scaledNumber? (text : ByteText) : Option (Int × Nat) :=
  let (negative, body) := match text with
    | '-' :: rest => (true, rest)
    | '+' :: rest => (false, rest)
    | _ => (false, text)
  let whole := body.takeWhile isDigit
  let places? : Option ByteText := match body.drop whole.length with
    | [] => some []
    | '.' :: rest => if rest.all isDigit then some rest else none
    | _ => none
  match places? with
  | none => none
  | some places =>
    if whole.isEmpty && places.isEmpty then none
    else
      let value : Int := ((Calculation.digitsIn 10 (whole ++ places)).1 : Int)
      some (if negative then -value else value, places.length)

def maxSequence : Nat := 200000

def sequence (arguments : List ByteText) : Script Nat := do
  let rec split : List ByteText → List ByteText × Option ByteText × Bool
    | ['-', 's'] :: value :: rest =>
      let (others, _, equal) := split rest
      (others, some value, equal)
    | ('-' :: 's' :: value) :: rest =>
      let (others, _, equal) := split rest
      (others, some value, equal)
    | ['-', 'w'] :: rest =>
      let (others, separator, _) := split rest
      (others, separator, true)
    | rest => (rest, none, false)
  let (operands, separator, isPadded) := split arguments
  match operands.mapM scaledNumber? with
  | none =>
    let wrong := (operands.find? fun operand => (scaledNumber? operand).isNone).getD []
    warn "seq" s!"invalid floating point argument: '{wrong.toText}'"
    return 1
  | some numbers =>
    let range? : Option ((Int × Nat) × (Int × Nat) × (Int × Nat)) := match numbers with
      | [last] => some ((1, 0), (1, 0), last)
      | [first, last] => some (first, (1, 0), last)
      | [first, step, last] => some (first, step, last)
      | _ => none
    match range? with
    | none =>
      warn "seq" (if numbers.isEmpty then "missing operand" else "extra operand")
      return 1
    | some (first, step, last) =>
      let places := max first.2 step.2
      let all := max places last.2
      let scaled (number : Int × Nat) : Int := number.1 * (Nat.pow 10 (all - number.2) : Nat)
      let (start, increment, stop) := (scaled first, scaled step, scaled last)
      if increment = 0 then
        warn "seq" "invalid Zero increment value: '0'"
        return 1
      else
        let count := if 0 < increment then (stop - start) / increment + 1
          else (start - stop) / (-increment) + 1
        let digitsOf (value : Int) : ByteText :=
          let digits := FieldLayout.withPoint false all value.natAbs
          let digits := digits.take (digits.length - (all - places))
          let digits := if places = 0 then digits.takeWhile (· ≠ '.') else digits
          if value < 0 then '-' :: digits else digits
        let texts := (List.range (min maxSequence count.toNat)).map fun (index : Nat) =>
          digitsOf (start + increment * (index : Nat))
        let width := texts.foldl (fun width text => max width text.length) 0
        let texts := if isPadded then
            texts.map fun text => List.replicate (width - text.length) '0' ++ text
          else texts
        if !texts.isEmpty then say ((separator.getD ['\n']).intercalate texts ++ ['\n'])
        printed "seq" 0

end DeviceRig.Shell.Tool
