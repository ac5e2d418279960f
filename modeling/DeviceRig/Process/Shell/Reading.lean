import DeviceRig.Process.Shell.Grammar

/-!
Reading shell scripts. A script is read line by line, so that what stands before a mistake still
runs; a command that goes on takes more lines. Within words, quotes, parameters, scripts and
calculations nest. The content of a document stands behind the line that asks for it.
-/
namespace DeviceRig.Shell

inductive ScriptFlaw where
  | unexpected (what : String)
  | openQuote
  | openBackquote
  | openBrace
  | openCalculation
  | badLoopName
  | badFunctionName
deriving DecidableEq, Repr, Inhabited

def ScriptFlaw.message : ScriptFlaw → String
  | .unexpected what => "Syntax error: " ++ what ++ " unexpected"
  | .openQuote => "Syntax error: Unterminated quoted string"
  | .openBackquote => "Syntax error: EOF in backquote substitution"
  | .openBrace => "Syntax error: Missing '\x7d'"
  | .openCalculation => "Syntax error: Missing '))'"
  | .badLoopName => "Syntax error: Bad for loop variable"
  | .badFunctionName => "Syntax error: Bad function name"

inductive Token where
  | endOfScript
  | newline
  | operator (text : String)
  | redirection (descriptor : Option Nat) (text : String)
  | word (parts : Word)
deriving Inhabited

def reservedWords : List String :=
  ["!", "case", "do", "done", "elif", "else", "esac", "fi", "for", "if", "in", "then", "until",
    "while", "\x7b", "\x7d"]

def Token.mark? : Token → Option String
  | .operator text => some text
  | .word [.literal text false] =>
    if reservedWords.contains (String.ofList text) then some (String.ofList text) else none
  | _ => none

def Token.describe : Token → String
  | .endOfScript => "end of file"
  | .newline => "newline"
  | .operator text => "\"" ++ text ++ "\""
  | .redirection .. => "redirection"
  | .word parts =>
    match Word.plain? parts with
    | some text =>
      if reservedWords.contains (String.ofList text) then "\"" ++ String.ofList text ++ "\""
      else "word"
    | none => "word"

structure PendingDocument where
  number : Nat
  delimiter : ByteText
  stripTabs : Bool
  isPlain : Bool
deriving Repr

/-- The script that is left, the token that was looked at, the documents, and the texts that stand
for words where a command starts. -/
structure ScriptSource where
  rest : ByteText
  ahead : Option Token
  pending : List PendingDocument
  documents : Array Word
  aliases : List (String × ByteText)
deriving Inhabited

abbrev ScriptReader := StateT ScriptSource (Except ScriptFlaw)

inductive Setting where
  | bare
  | braced
  | quoted
  | quotedBraced (inner : Bool)
  | document
  | calculation (nesting : Nat)
deriving DecidableEq, Repr

namespace Setting

def isQuoted : Setting → Bool
  | .bare | .braced => false
  | _ => true

def isSpecial (setting : Setting) (c : Char) : Bool :=
  c = '\\' || c = '$' || c = '\x60' || c = '"' ||
    match setting with
    | .bare => "' \t\n;&|<>()".toList.contains c
    | .braced => c = '\'' || c = '}'
    | .quoted | .document => false
    | .quotedBraced _ => c = '}'
    | .calculation _ => c = '(' || c = ')'

/-- Characters that a backslash takes the meaning of; elsewhere the backslash stays. -/
def escapes (setting : Setting) (c : Char) : Bool :=
  match setting with
  | .bare | .braced => true
  | .quoted => c = '\\' || c = '$' || c = '\x60' || c = '"'
  | .quotedBraced _ => c = '\\' || c = '$' || c = '\x60' || c = '"' || c = '}'
  | .document | .calculation _ => c = '\\' || c = '$' || c = '\x60'

end Setting

def isSpecialParameter (c : Char) : Bool :=
  "!#$*-?@".toList.contains c

def withoutContinuations : ByteText → ByteText
  | '\\' :: '\n' :: rest => withoutContinuations rest
  | text => text

/-- The text up to a closing backquote, with its escapes taken away, and what is left. -/
def backquoted (quoted : Bool) : ByteText → Option (ByteText × ByteText)
  | [] => none
  | '\x60' :: rest => some ([], rest)
  | '\\' :: '\n' :: rest => backquoted quoted rest
  | '\\' :: c :: rest =>
    (backquoted quoted rest).map fun (text, after) =>
      if c = '\x60' || c = '$' || c = '\\' || (quoted && c = '"') then (c :: text, after)
      else ('\\' :: c :: text, after)
  | c :: rest => (backquoted quoted rest).map fun (text, after) => (c :: text, after)

/-- What a change is called by the characters behind a parameter's name, whether its word is read
as in a bare word, and what is left. -/
def changeAt : ByteText → Change × Bool × ByteText
  | '}' :: rest => (.value, false, '}' :: rest)
  | ':' :: '-' :: rest => (.fallback true, false, rest)
  | ':' :: '=' :: rest => (.assign true, false, rest)
  | ':' :: '?' :: rest => (.require true, false, rest)
  | ':' :: '+' :: rest => (.alternative true, false, rest)
  | '-' :: rest => (.fallback false, false, rest)
  | '=' :: rest => (.assign false, false, rest)
  | '?' :: rest => (.require false, false, rest)
  | '+' :: rest => (.alternative false, false, rest)
  | '#' :: '#' :: rest => (.cutStart true, true, rest)
  | '#' :: rest => (.cutStart false, true, rest)
  | '%' :: '%' :: rest => (.cutEnd true, true, rest)
  | '%' :: rest => (.cutEnd false, true, rest)
  | rest => (.bad, false, rest)

/-- The name of the parameter that braces start with, whether its length is asked for, and what is
left; no name is a bad parameter. -/
def parameterAt : ByteText → String × Bool × ByteText
  | [] => ("", false, [])
  | '#' :: rest =>
    match rest with
    | c :: after =>
      if isNamePart c then
        if isDigit c then
          (String.ofList (rest.takeWhile isDigit), true, rest.dropWhile isDigit)
        else (String.ofList (rest.takeWhile isNamePart), true, rest.dropWhile isNamePart)
      else if c ≠ '}' && after.head? = some '}' then
        if isSpecialParameter c then (c.toString, true, after) else ("", false, rest)
      else ("#", false, rest)
    | [] => ("#", false, [])
  | c :: rest =>
    if isDigit c then
      (String.ofList ((c :: rest).takeWhile isDigit), false, (c :: rest).dropWhile isDigit)
    else if isNameStart c then
      (String.ofList ((c :: rest).takeWhile isNamePart), false, (c :: rest).dropWhile isNamePart)
    else if isSpecialParameter c then (c.toString, false, rest)
    else ("", false, c :: rest)

/-- The word that ends a document: its text without quotes, whether it had none, and the rest. -/
def delimiterAt : ByteText → ByteText × Bool × ByteText
  | [] => ([], true, [])
  | '\\' :: c :: rest =>
    let (text, _, after) := delimiterAt rest
    (c :: text, false, after)
  | '\'' :: rest =>
    let after := rest.dropWhile (· ≠ '\'')
    (rest.takeWhile (· ≠ '\''), false, after.drop 1)
  | '"' :: rest =>
    let after := rest.dropWhile (· ≠ '"')
    (rest.takeWhile (· ≠ '"'), false, after.drop 1)
  | c :: rest =>
    if Setting.bare.isSpecial c && c ≠ '$' && c ≠ '\x60' then ([], true, c :: rest)
    else
      let (text, plain, after) := delimiterAt rest
      (c :: text, plain, after)

def documentLines (delimiter : ByteText) (stripTabs : Bool) :
    Nat → ByteText → ByteText × ByteText
  | 0, rest => ([], rest)
  | _ + 1, [] => ([], [])
  | lines + 1, rest =>
    let line := rest.takeWhile (· ≠ '\n')
    let after := rest.dropWhile (· ≠ '\n')
    let line := if stripTabs then line.dropWhile (· = '\t') else line
    if line = delimiter then ([], after.drop 1)
    else
      let (others, left) := documentLines delimiter stripTabs lines (after.drop 1)
      (line ++ after.take 1 ++ others, left)

def skipBlanks : ByteText → ByteText
  | '\\' :: '\n' :: rest => skipBlanks rest
  | '#' :: rest => rest.dropWhile (· ≠ '\n')
  | c :: rest => if isBlank c then skipBlanks rest else c :: rest
  | [] => []

def operators : List String :=
  [";;", "&&", "||", ";", "&", "|", "(", ")"]

def redirections : List String :=
  ["<<-", "<<", "<&", "<>", "<", ">>", ">&", ">|", ">"]

def startingWith? (texts : List String) (rest : ByteText) : Option (String × ByteText) :=
  (texts.find? fun text => text.toList.isPrefixOf rest).map fun text =>
    (text, rest.drop text.length)

def specialBuiltins : List String :=
  [".", ":", "break", "continue", "eval", "exec", "exit", "export", "local", "readonly", "return",
    "set", "shift", "times", "trap", "unset"]

/-- A word that assigns: the name before its first equals sign and the word behind it. -/
def assignment? : Word → Option (String × Word)
  | .literal text false :: parts =>
    let name := text.takeWhile isNamePart
    match text.dropWhile isNamePart with
    | '=' :: value =>
      if isName name then
        some (String.ofList name, if value.isEmpty then parts else .literal value false :: parts)
      else none
    | _ => none
  | _ => none

def joinLiterals : Word → Word
  | .literal a x :: rest =>
    match joinLiterals rest with
    | .literal b y :: others =>
      if x = y then .literal (a ++ b) x :: others else .literal a x :: .literal b y :: others
    | others => .literal a x :: others
  | part :: rest => part :: joinLiterals rest
  | [] => []

namespace ScriptReader

def rest : ScriptReader ByteText := return (← get).rest

def setRest (rest : ByteText) : ScriptReader Unit :=
  modify fun source => { source with rest }

def dropToken : ScriptReader Unit :=
  modify fun source => { source with ahead := none }

/-- Puts the text in place of a word that it stands for, if there is one. Until the line ends it
does not do so again, since it may hold the word itself. -/
def replaceAlias (next : Token) : ScriptReader Bool := do
  let source ← get
  match next with
  | .word [.literal text false] =>
    let name := String.ofList text
    match source.aliases.lookup name with
    | some value =>
      set { source with
        rest := value ++ source.rest
        ahead := none
        aliases := source.aliases.filter fun entry => entry.1 ≠ name }
      return true
    | none => return false
  | _ => return false

mutual

def parts (setting : Setting) : Nat → ScriptReader Word
  | 0 => throw (.unexpected "word")
  | fuel + 1 => do
    let quoted := setting.isQuoted
    match ← rest with
    | [] =>
      match setting with
      | .bare | .document => return []
      | .braced | .quotedBraced _ => throw .openBrace
      | .quoted => throw .openQuote
      | .calculation _ => throw .openCalculation
    | '\\' :: after =>
      match after with
      | [] =>
        setRest []
        return .literal ['\\'] true :: (← parts setting fuel)
      | c :: after =>
        setRest after
        if c = '\n' then parts setting fuel
        else if setting.escapes c then return .literal [c] true :: (← parts setting fuel)
        else return .literal ['\\', c] quoted :: (← parts setting fuel)
    | '$' :: after =>
      setRest after
      let part ← dollar setting fuel
      return part :: (← parts setting fuel)
    | '\x60' :: after =>
      match backquoted quoted after with
      | none => throw .openBackquote
      | some (script, after) =>
        let source ← get
        set { source with rest := script, ahead := none, pending := [] }
        let commands ← commandsUntilEnd fuel
        modify fun inner =>
          { source with rest := after, documents := inner.documents, ahead := none }
        return .output commands quoted :: (← parts setting fuel)
    | '"' :: after =>
      setRest after
      match setting with
      | .bare | .braced =>
        let inside ← parts .quoted fuel
        let inside := if inside.isEmpty then [.literal [] true] else inside
        return inside ++ (← parts setting fuel)
      | .quoted => return []
      | .quotedBraced inner => parts (.quotedBraced (!inner)) fuel
      | .document => return .literal ['"'] true :: (← parts setting fuel)
      | .calculation _ => parts setting fuel
    | c :: after =>
      if setting.isSpecial c then
        match setting, c with
        | .bare, '\'' | .braced, '\'' =>
          let text := after.takeWhile (· ≠ '\'')
          match after.dropWhile (· ≠ '\'') with
          | [] => throw .openQuote
          | _ :: left =>
            setRest left
            return .literal text true :: (← parts setting fuel)
        | .bare, _ => return []
        | .quotedBraced true, _ =>
          setRest after
          return .literal [c] true :: (← parts setting fuel)
        | .calculation nesting, '(' =>
          setRest after
          return .literal [c] true :: (← parts (.calculation (nesting + 1)) fuel)
        | .calculation (nesting + 1), _ =>
          setRest after
          return .literal [c] true :: (← parts (.calculation nesting) fuel)
        | .calculation 0, _ =>
          match after with
          | ')' :: left =>
            setRest left
            return []
          | _ =>
            setRest after
            return .literal [c] true :: (← parts setting fuel)
        | _, _ =>
          setRest after
          return []
      else
        let plain := fun c => !setting.isSpecial c
        setRest (after.dropWhile plain)
        return .literal (c :: after.takeWhile plain) quoted :: (← parts setting fuel)

def dollar (setting : Setting) : Nat → ScriptReader WordPart
  | 0 => throw (.unexpected "word")
  | fuel + 1 => do
    let quoted := setting.isQuoted
    match withoutContinuations (← rest) with
    | '(' :: '(' :: after =>
      setRest after
      return .calculation (← parts (.calculation 0) fuel) quoted
    | '(' :: after =>
      let source ← get
      set { source with rest := after, ahead := none, pending := [] }
      let commands ← list true fuel
      let token ← peek false fuel
      if token.mark? ≠ some ")" then throw (.unexpected token.describe)
      modify fun inner =>
        { inner with ahead := none, pending := source.pending ++ inner.pending }
      return .output commands quoted
    | '{' :: after =>
      let (name, isLength, after) := parameterAt (withoutContinuations after)
      let (change, bare, after) := changeAt (withoutContinuations after)
      setRest after
      let setting := if bare || !quoted then .braced else .quotedBraced false
      let word ← parts setting fuel
      let change :=
        if name.isEmpty || (isLength && change ≠ .value) then .bad
        else if isLength then .length
        else change
      return .parameter name change (joinLiterals word) quoted
    | c :: after =>
      if isNameStart c then
        setRest (after.dropWhile isNamePart)
        return .parameter (String.ofList (c :: after.takeWhile isNamePart)) .value [] quoted
      else if isDigit c || isSpecialParameter c then
        setRest after
        return .parameter c.toString .value [] quoted
      else return .literal ['$'] quoted
    | [] => return .literal ['$'] quoted

def readDocuments : Nat → ScriptReader Unit
  | 0 => return
  | fuel + 1 => do
    let source ← get
    match source.pending with
    | [] => return
    | document :: pending =>
      let (content, left) := documentLines document.delimiter document.stripTabs
        (source.rest.length + 1) source.rest
      let word : Word ←
        if document.isPlain then do
          set { source with rest := content, ahead := none, pending := [] }
          parts .document fuel
        else pure [.literal content true]
      modify fun inner =>
        { inner with
          rest := left
          pending := pending
          documents := inner.documents.setIfInBounds document.number word }
      readDocuments fuel

def token : Nat → ScriptReader Token
  | 0 => throw (.unexpected "word")
  | fuel + 1 => do
    let here := skipBlanks (← rest)
    setRest here
    match here with
    | [] =>
      readDocuments fuel
      return .endOfScript
    | '\n' :: after =>
      setRest after
      readDocuments fuel
      return .newline
    | c :: after =>
      match startingWith? operators here with
      | some (text, after) =>
        setRest after
        return .operator text
      | none =>
        match startingWith? redirections here with
        | some (text, after) =>
          setRest after
          return .redirection none text
        | none =>
          match isDigit c, startingWith? redirections after with
          | true, some (text, after) =>
            setRest after
            return .redirection (some (c.toNat - '0'.toNat)) text
          | _, _ => return .word (joinLiterals (← parts .bare fuel))

def peek (skipNewlines : Bool) : Nat → ScriptReader Token
  | 0 => throw (.unexpected "word")
  | fuel + 1 => do
    let next ← match (← get).ahead with
      | some next => pure next
      | none => token fuel
    match next, skipNewlines with
    | .newline, true =>
      dropToken
      peek true fuel
    | _, _ =>
      modify fun source => { source with ahead := some next }
      return next

def expect (mark : String) (skipNewlines : Bool) : Nat → ScriptReader Unit
  | 0 => throw (.unexpected "word")
  | fuel + 1 => do
    let next ← peek skipNewlines fuel
    if next.mark? = some mark then dropToken else throw (.unexpected next.describe)

def redirect (descriptor : Option Nat) (text : String) : Nat → ScriptReader Redirect
  | 0 => throw (.unexpected "word")
  | fuel + 1 => do
    if text = "<<" || text = "<<-" then
      let here := skipBlanks (← rest)
      let (delimiter, isPlain, after) := delimiterAt here
      if after.length = here.length then throw (.unexpected (← token fuel).describe)
      modify fun source =>
        let document := ⟨source.documents.size, delimiter, text = "<<-", isPlain⟩
        { source with
          rest := after
          pending := source.pending ++ [document]
          documents := source.documents.push [] }
      return .document (descriptor.getD 0) ((← get).documents.size - 1)
    else
      match ← token fuel with
      | .word target =>
        let isInput := text = "<" || text = "<&" || text = "<>"
        let descriptor := descriptor.getD (if isInput then 0 else 1)
        if text = "<&" || text = ">&" then return .duplicate descriptor target
        else
          let mode : OpenMode :=
            if text = "<" then .read
            else if text = "<>" then .readWrite
            else if text = ">>" then .append
            else if text = ">|" then .overwrite
            else .write
          return .file descriptor mode target
      | next => throw (.unexpected next.describe)

def redirects : Nat → ScriptReader (List Redirect)
  | 0 => throw (.unexpected "word")
  | fuel + 1 => do
    match ← peek false fuel with
    | .redirection descriptor text =>
      dropToken
      let first ← redirect descriptor text fuel
      return first :: (← redirects fuel)
    | _ => return []

/-- Reads a simple command or the definition of a function, given what was read of it. -/
def simple (assignments : List (String × Word)) (words : List Word)
    (redirections : List Redirect) : Nat → ScriptReader Command
  | 0 => throw (.unexpected "word")
  | fuel + 1 => do
    let next ← peek false fuel
    if words.isEmpty && (← replaceAlias next) then
      simple assignments words redirections fuel
    else match next with
    | .word parts =>
      dropToken
      match words.isEmpty, assignment? parts with
      | true, some entry => simple (assignments ++ [entry]) words redirections fuel
      | _, _ => simple assignments (words ++ [parts]) redirections fuel
    | .redirection descriptor text =>
      dropToken
      let more ← redirect descriptor text fuel
      simple assignments words (redirections ++ [more]) fuel
    | .operator "(" =>
      match assignments, words, redirections with
      | [], [name], [] =>
        dropToken
        expect ")" false fuel
        match Word.plain? name with
        | some name =>
          if isName name && !specialBuiltins.contains (String.ofList name) then
            let _ ← peek true fuel
            return .function (String.ofList name) (← command fuel)
          else throw .badFunctionName
        | none => throw .badFunctionName
      | _, _, _ => return .simple assignments words redirections
    | _ => return .simple assignments words redirections

def wordList : Nat → ScriptReader (List Word)
  | 0 => throw (.unexpected "word")
  | fuel + 1 => do
    match ← peek false fuel with
    | .word parts =>
      dropToken
      return parts :: (← wordList fuel)
    | .newline | .operator ";" =>
      dropToken
      return []
    | next => throw (.unexpected next.describe)

def patterns : Nat → ScriptReader (List Word)
  | 0 => throw (.unexpected "word")
  | fuel + 1 => do
    match ← peek false fuel with
    | .word parts =>
      dropToken
      let next ← peek false fuel
      if next.mark? = some "|" then
        dropToken
        return parts :: (← patterns fuel)
      else
        expect ")" false fuel
        return [parts]
    | next => throw (.unexpected next.describe)

def clauses : Nat → ScriptReader (List (List Word × Option Command))
  | 0 => throw (.unexpected "word")
  | fuel + 1 => do
    let next ← peek true fuel
    if next.mark? = some "esac" then
      dropToken
      return []
    if next.mark? = some "(" then dropToken
    let alternatives ← patterns fuel
    let body ← list true fuel
    let clause := (alternatives, if body.isEmpty then none else some (.sequence body))
    let next ← peek true fuel
    if next.mark? = some "esac" then
      dropToken
      return [clause]
    else
      expect ";;" true fuel
      return clause :: (← clauses fuel)

def branches (test : List Command) : Nat → ScriptReader Command
  | 0 => throw (.unexpected "word")
  | fuel + 1 => do
    expect "then" false fuel
    let body ← list false fuel
    let next ← peek false fuel
    match next.mark? with
    | some "elif" =>
      dropToken
      let test' ← list false fuel
      return .conditional (.sequence test) (.sequence body) (some (← branches test' fuel))
    | some "else" =>
      dropToken
      let otherwise ← list false fuel
      expect "fi" false fuel
      return .conditional (.sequence test) (.sequence body) (some (.sequence otherwise))
    | _ =>
      expect "fi" false fuel
      return .conditional (.sequence test) (.sequence body) none

def loopBody : Nat → ScriptReader Command
  | 0 => throw (.unexpected "word")
  | fuel + 1 => do
    expect "do" true fuel
    let body ← list false fuel
    expect "done" false fuel
    return .sequence body

def command : Nat → ScriptReader Command
  | 0 => throw (.unexpected "word")
  | fuel + 1 => do
    let next ← peek false fuel
    let behind (body : Command) : ScriptReader Command := do
      match ← redirects fuel with
      | [] => return body
      | found => return .redirected body found
    if next.mark?.isNone && (← replaceAlias next) then
      command fuel
    else match next, next.mark? with
    | _, some "if" =>
      dropToken
      let test ← list false fuel
      behind (← branches test fuel)
    | _, some "while" =>
      dropToken
      let test ← list false fuel
      behind (.loop false (.sequence test) (← loopBody fuel))
    | _, some "until" =>
      dropToken
      let test ← list false fuel
      behind (.loop true (.sequence test) (← loopBody fuel))
    | _, some "for" =>
      dropToken
      let name ← match ← peek false fuel with
        | .word parts =>
          match Word.plain? parts with
          | some name => if isName name then pure (String.ofList name) else throw .badLoopName
          | none => throw .badLoopName
        | _ => throw .badLoopName
      dropToken
      let next ← peek true fuel
      if next.mark? = some "in" then
        dropToken
        let words ← wordList fuel
        behind (.each name (some words) (← loopBody fuel))
      else
        if next.mark? = some ";" then dropToken
        behind (.each name none (← loopBody fuel))
    | _, some "case" =>
      dropToken
      match ← peek false fuel with
      | .word subject =>
        dropToken
        expect "in" true fuel
        behind (.cases subject (← clauses fuel))
      | next => throw (.unexpected next.describe)
    | _, some "(" =>
      dropToken
      let body ← list false fuel
      expect ")" false fuel
      behind (.subshell (.sequence body))
    | _, some "\x7b" =>
      dropToken
      let body ← list false fuel
      expect "\x7d" false fuel
      behind (.sequence body)
    | .word _, none => simple [] [] [] fuel
    | .redirection .., _ => simple [] [] [] fuel
    | _, _ => throw (.unexpected next.describe)

def piped : Nat → ScriptReader (List Command)
  | 0 => throw (.unexpected "word")
  | fuel + 1 => do
    let next ← peek false fuel
    if next.mark? = some "|" then
      dropToken
      let _ ← peek true fuel
      let first ← command fuel
      return first :: (← piped fuel)
    else return []

def pipeline : Nat → ScriptReader Command
  | 0 => throw (.unexpected "word")
  | fuel + 1 => do
    let next ← peek false fuel
    let negated := next.mark? = some "!"
    if negated then dropToken
    let first ← command fuel
    let whole ← match ← piped fuel with
      | [] => pure first
      | others => pure (.pipeline (first :: others))
    return if negated then .negation whole else whole

def joined (first : Command) : Nat → ScriptReader Command
  | 0 => throw (.unexpected "word")
  | fuel + 1 => do
    let next ← peek false fuel
    match next.mark? with
    | some "&&" =>
      dropToken
      let _ ← peek true fuel
      joined (.both first (← pipeline fuel)) fuel
    | some "||" =>
      dropToken
      let _ ← peek true fuel
      joined (.either first (← pipeline fuel)) fuel
    | _ => return first

def list (mayEnd : Bool) : Nat → ScriptReader (List Command)
  | 0 => throw (.unexpected "word")
  | fuel + 1 => do
    let next ← peek true fuel
    let ends := match next, next.mark? with
      | .endOfScript, _ => true
      | _, some mark =>
        [")", ";;", "do", "done", "elif", "else", "esac", "fi", "then", "\x7d"].contains mark
      | _, none => false
    if mayEnd && ends then return []
    let first ← pipeline fuel
    let whole ← joined first fuel
    let next ← peek false fuel
    match next, next.mark? with
    | _, some "&" =>
      dropToken
      return .background whole :: (← list true fuel)
    | _, some ";" =>
      dropToken
      return whole :: (← list true fuel)
    | .newline, _ => return whole :: (← list true fuel)
    | _, _ => return [whole]

def commandsUntilEnd : Nat → ScriptReader (List Command)
  | 0 => throw (.unexpected "word")
  | fuel + 1 => do
    let commands ← list true fuel
    match ← peek true fuel with
    | .endOfScript => return commands
    | next => throw (.unexpected next.describe)

end

def line : Nat → ScriptReader (List Command)
  | 0 => throw (.unexpected "word")
  | fuel + 1 => do
    match ← peek false fuel with
    | .newline =>
      dropToken
      return []
    | .endOfScript => return []
    | _ =>
      let first ← pipeline fuel
      let whole ← joined first fuel
      let next ← peek false fuel
      match next, next.mark? with
      | _, some "&" =>
        dropToken
        return .background whole :: (← line fuel)
      | _, some ";" =>
        dropToken
        return whole :: (← line fuel)
      | .newline, _ =>
        dropToken
        return [whole]
      | .endOfScript, _ => return [whole]
      | _, _ => throw (.unexpected next.describe)

end ScriptReader

/-- What reading one line of a script gives: its commands, the script that is left, and whether the
script ended with the line. -/
structure ScriptLine where
  commands : List Command
  rest : ByteText
  documents : Array Word
  isLast : Bool
deriving Inhabited

def readLine (aliases : List (String × ByteText)) (documents : Array Word) (script : ByteText) :
    Except ScriptFlaw (Option ScriptLine) :=
  if script.isEmpty then .ok none
  else
    let source : ScriptSource := ⟨script, none, [], documents, aliases⟩
    match (ScriptReader.line (8 * (script.length + 8))).run source with
    | .error flaw => .error flaw
    | .ok (commands, source) =>
      let isLast := match source.ahead with
        | some .endOfScript => true
        | _ => false
      .ok (some ⟨commands, if isLast then [] else source.rest, source.documents, isLast⟩)

end DeviceRig.Shell
