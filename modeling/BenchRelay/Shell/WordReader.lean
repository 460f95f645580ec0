import BenchRelay.Shell.Bytes
import BenchRelay.Shell.Draft

/-!
# Reading words and tokens

A word is read character by character onto a draft. The commands of a substitution are read in the
middle of a word, by a reader that is given. A text within the script is read as a word of its own:
up to the line that is its end mark, and with no meaning but that of double quotes, or none at all.
-/

namespace BenchRelay.Shell

/-- A reader of the commands of a substitution, up to a closing parenthesis or up to the end of the
text. -/
abbrev Substitution := (untilParen : Bool) → Read Command

/-- What ends a text within a script: its end, or a line before. -/
structure TextEnd where
  line? : Option Text
  stripsTabs : Bool := false

namespace Read

/-- Whether a character is the name of a parameter of the shell itself. -/
def isSpecialParameter (c : Char) : Bool := c.isDigit || "!#$*-?@".toList.contains c

/-- Read on as long as characters are of a kind, behind those read so far, the last one first: the
text, and the character behind it. -/
def nameFrom (isPart : Char → Bool) : (fuel : Nat) → Text → Option Char → Read (Text × Option Char)
  | 0, seen, c => return (seen.reverse, c)
  | fuel + 1, seen, c => do
    match c with
    | some char =>
      if isPart char then nameFrom isPart fuel (char :: seen) (← nextChar)
      else return (seen.reverse, c)
    | none => return (seen.reverse, none)

/-- How many characters a name has at most. -/
def nameLimit : Nat := 1000000

/-- Read the name or number of a parameter that begins with a character, and the character behind
it. -/
def parameterName (c : Char) : Read (Text × Option Char) := do
  if isNameStart c then nameFrom isNameChar nameLimit [c] (← nextChar)
  else nameFrom Char.isDigit nameLimit [c] (← nextChar)

/-- What the character behind the name of a parameter in braces says to do with it, in front of its
word; nothing if the braces end there. -/
def useBehind (emptyToo : Bool) : Option Char → Option Use
  | some '-' => some (.orElse emptyToo)
  | some '+' => some (.ifPresent emptyToo)
  | some '?' => some (.demand emptyToo)
  | some '=' => some (.assign emptyToo)
  | some '\x7d' => if emptyToo then some .malformed else none
  | _ => some .malformed

/-- Read what to take off a parameter, behind the sign that says from which end. -/
def trimBehind (sign : Char) : Read Use := do
  match ← nextChar with
  | some c =>
    if c = sign then return .trim (sign == '%') true
    putBack [c]
    return .trim (sign == '%') false
  | none => return .trim (sign == '%') false

/-- Read what to do with the parameter of a name, behind which a character stands. -/
def readUse (draft : Draft) (name : Text) (c : Option Char) : Read Draft := do
  let begin (use? : Option Use) : Draft :=
    match use? with
    | none => draft.add (.parameter name .value [])
    | some use => draft.beginParameter name use false
  match c with
  | some ':' => return begin (useBehind true (← nextChar))
  | some '%' => return draft.beginParameter name (← trimBehind '%') true
  | some '#' => return draft.beginParameter name (← trimBehind '#') true
  | c => return begin (useBehind false c)

/-- Read a parameter whose length is asked for, behind the character behind its name. -/
def readLength (draft : Draft) (name : Text) (c : Option Char) : Read Draft := do
  putBack? c
  return draft.beginParameter name (if c = some '\x7d' then .length else .malformed) false

/-- Read a parameter without a name that could be one. -/
def readMalformed (draft : Draft) (c : Option Char) : Read Draft := do
  putBack? c
  return draft.beginParameter [] .malformed false

/-- Read a parameter in braces behind a number sign, which asks for a length or is itself the name
of the parameter. -/
def readBehindNumberSign (draft : Draft) : Read Draft := do
  match ← nextChar with
  | none => readUse draft ['#'] none
  | some c =>
    if isNameChar c then
      let (name, c) ← parameterName c
      readLength draft name c
    else
      let behind ← nextChar
      if c = '\x7d' || behind ≠ some '\x7d' then
        putBack? behind
        readUse draft ['#'] (some c)
      else if isSpecialParameter c then readLength draft [c] behind
      else readMalformed draft behind

/-- Read a parameter behind its opening brace. -/
def readBraced (draft : Draft) : Read Draft := do
  match ← nextChar with
  | none => readMalformed draft none
  | some '\x7d' => readMalformed draft (some '\x7d')
  | some '#' => readBehindNumberSign draft
  | some c =>
    if isNameChar c then
      let (name, c) ← parameterName c
      readUse draft name c
    else
      let behind ← nextChar
      if isSpecialParameter c then readUse draft [c] behind else readMalformed draft behind

/-- Read what stands behind a dollar sign. -/
def readDollar (inner : Substitution) (draft : Draft) : Read Draft := do
  let c ← nextChar
  let itself : Read Draft := do
    putBack? c
    return draft.char '$' false
  if (← get).expectation.endMark then itself
  else match c with
    | none => itself
    | some '(' =>
      match ← nextChar with
      | some '(' => return draft.beginArithmetic
      | c =>
        putBack? c
        return draft.add (.output (← inner true))
    | some '\x7b' => readBraced draft
    | some c =>
      if isNameStart c then
        let (name, c) ← nameFrom isNameChar nameLimit [c] (← nextChar)
        putBack? c
        return draft.add (.parameter name .value [])
      else if isSpecialParameter c then return draft.add (.parameter [c] .value [])
      else itself

/-- The text between backquotes, behind what was read of it, the last character first. Backslashes
in front of some characters do not belong to it. -/
def backquoted (doubled : Bool) : (fuel : Nat) → Text → Read Text
  | 0, seen => return seen.reverse
  | fuel + 1, seen => do
    match ← nextChar with
    | none => fail "EOF in backquote substitution"
    | some '`' => return seen.reverse
    | some '\\' =>
      match ← next with
      | none => fail "EOF in backquote substitution"
      | some c =>
        if c = '\\' || c = '`' || c = '$' || (doubled && c = '"') then
          backquoted doubled fuel (c :: seen)
        else backquoted doubled fuel (c :: '\\' :: seen)
    | some c =>
      if c = '\n' then countLine
      backquoted doubled fuel (c :: seen)

/-- How many characters a script or a part of it has at most. -/
def textLimit : Nat := 100000000

/-- Read what stands behind a backquote. -/
def readBackquote (inner : Substitution) (draft : Draft) : Read Draft := do
  if (← get).expectation.endMark then return draft.char '`' false
  let text ← backquoted draft.level.doubled textLimit []
  return draft.add (.output (← within text (inner false)))

/-- Read what stands behind a backslash. -/
def readBackslash (inText : Bool) (draft : Draft) : Read Draft := do
  match ← next with
  | none => return draft.char '\\' true
  | some c =>
    let draft := if draft.keepsBackslash inText c then draft.char '\\' true else draft
    return { draft.char c true with quoted := true }

/-- Read a closing parenthesis in an expression, which ends it if another one follows. -/
def readCloseParen (draft : Draft) : Read Draft := do
  if draft.level.parens > 0 then
    return (draft.char ')' false).atLevel fun level => { level with parens := level.parens - 1 }
  match ← nextChar with
  | some ')' => return draft.leave.pop
  | c =>
    putBack? c
    return draft.char ')' false

/-- Read one character onto a draft, unless it ends the word. -/
def readOnto (inner : Substitution) (inText : Bool) (draft : Draft) (c : Char) :
    Read (Option Draft) := do
  let level := draft.level
  match level.mode.meaning c with
  | .newline =>
    if level.mode = .plain && level.braces = 0 then return none
    countLine
    return some (draft.char c false)
  | .itself => return some (draft.char c false)
  | .guarded => return some (draft.char c (!inText || level.doubled || level.braces > 0))
  | .backslash => some <$> readBackslash inText draft
  | .singleQuote => return some (draft.beginSingle inText)
  | .doubleQuote => return some (draft.beginDouble inText)
  | .endQuotes => return some (draft.endQuotes inText c)
  | .dollar => some <$> readDollar inner draft
  | .closeBrace => return some draft.closeBrace
  | .openParen =>
    return some ((draft.char c false).atLevel fun level =>
      { level with parens := level.parens + 1 })
  | .closeParen => some <$> readCloseParen draft
  | .backquote => some <$> readBackquote inner draft
  | .separator => return if level.braces = 0 then none else some (draft.char c false)

/-- Take the tabs at the start of a line. -/
def skipTabs : (fuel : Nat) → Option Char → Read (Option Char)
  | 0, c => return c
  | fuel + 1, c => do if c = some '\t' then skipTabs fuel (← next) else return c

/-- Whether a line is a given one from a character on, behind what was read of it: what was read
if it is not. -/
def matchLine : (line seen : Text) → Option Char → Read (Option Text)
  | [], seen, c => do
    match c with
    | none | some '\n' =>
      countLine
      return none
    | some c => return some (seen ++ [c])
  | a :: line, seen, c => do
    if c = some a then matchLine line (seen ++ [a]) (← next)
    else return some (seen ++ c.toList)

/-- The first character of a line, unless the line ends the text. -/
def lineStart (textEnd : TextEnd) (c : Option Char) : Read (Option Char) := do
  match textEnd.line? with
  | none => return c
  | some line =>
    let c ← if textEnd.stripsTabs then skipTabs nameLimit c else pure c
    match ← matchLine line [] c with
    | none => return none
    | some [] => return none
    | some (c :: rest) =>
      putBack rest
      return some c

/-- Read characters onto a draft up to the end of a word, or of a text within the script: the draft,
and the character that ends it. -/
def readFrom (inner : Substitution) (textEnd? : Option TextEnd) :
    (fuel : Nat) → Draft → Option Char → Read (Draft × Option Char)
  | 0, draft, c => return (draft, c)
  | fuel + 1, draft, c => do
    match c with
    | none => return (draft, none)
    | some char =>
      match ← readOnto inner textEnd?.isSome draft char with
      | none => return (draft, c)
      | some draft =>
        let behind ← if draft.level.mode = .singleQuotes then next else nextChar
        let behind ← match char, textEnd? with
          | '\n', some textEnd => lineStart textEnd behind
          | _, _ => pure behind
        readFrom inner textEnd? fuel draft behind

/-- Give up if anything is still open where a word or a text ends. -/
def checkClosed (inText : Bool) (draft : Draft) : Read Unit := do
  if draft.level.mode = .arithmetic then fail "Missing '))'"
  if draft.level.mode ≠ .plain && !inText then fail "Unterminated quoted string"
  if draft.level.braces ≠ 0 then fail "Missing '\x7d'"

/-- Read a text within the script, in which parameters are replaced or not. -/
def readText (inner : Substitution) (textEnd : TextEnd) (expands : Bool) : Read Word := do
  let level : Level :=
    if expands then { mode := .doubleQuotes, doubled := true } else { mode := .singleQuotes }
  let c ← if expands then nextChar else next
  let c ← lineStart textEnd c
  let (draft, _) ← readFrom inner (some textEnd) textLimit { level } c
  checkClosed true draft
  return draft.word

/-- Read the texts that are to be read behind this line. -/
def readPending (inner : Substitution) : Read Unit := do
  let pending := (← get).pending
  modify fun reading => { reading with pending := [] }
  for document in pending do
    let textEnd : TextEnd :=
      { line? := some document.endMark, stripsTabs := document.stripsTabs }
    let text ← readText inner textEnd document.expands
    modify fun reading =>
      { reading with hereTexts := (document.number, text) :: reading.hereTexts }

/-- Take a token. -/
def token (token : Token) : Read Token := do
  modify fun reading => { reading with token }
  return token

/-- Take a token of one sign, or another one if the sign is there twice. -/
def doubled (sign : Char) (once twice : Token) : Read Token := do
  match ← nextChar with
  | some c =>
    if c = sign then token twice
    else
      putBack [c]
      token once
  | none => token once

/-- Read the sign of a redirection behind its first character. -/
def readRedirecting (c : Char) (descriptor? : Option Nat) : Read Token := do
  let take (byDefault : Nat) (redirecting : Redirecting) : Read Token := do
    modify fun reading =>
      { reading with redirecting := (descriptor?.getD byDefault, redirecting) }
    token .redirection
  if c = '>' then
    match ← nextChar with
    | some '>' => take 1 (.file .append)
    | some '|' => take 1 (.file .overwrite)
    | some '&' => take 1 .copy
    | c =>
      putBack? c
      take 1 (.file .write)
  else
    match ← nextChar with
    | some '<' =>
      match ← nextChar with
      | some '-' => take 0 (.here true)
      | c =>
        putBack? c
        take 0 (.here false)
    | some '&' => take 0 .copy
    | some '>' => take 0 (.file .readWrite)
    | c =>
      putBack? c
      take 0 (.file .read)

/-- The descriptor that a draft names where it is nothing but a digit, or nothing at all. -/
def descriptorOf? (draft : Draft) : Option (Option Nat) :=
  if draft.quoted || !draft.openings.isEmpty then none
  else match draft.parts with
    | [] => some none
    | [.char c false] => if c.isDigit then some (some (c.toNat - '0'.toNat)) else none
    | _ => none

/-- Read a word that begins with a character, or the sign of a redirection. -/
def readWord (inner : Substitution) (c : Char) : Read Token := do
  let (draft, behind) ←
    readFrom inner none textLimit { level := { mode := .plain } } (some c)
  checkClosed false draft
  let asWord : Read Token := do
    putBack? behind
    modify fun reading => { reading with word := draft.word, quoted := draft.quoted }
    token .word
  match behind with
  | some c =>
    if c = '>' || c = '<' then
      match descriptorOf? draft with
      | some descriptor? => readRedirecting c descriptor?
      | none => asWord
    else asWord
  | none => asWord

/-- Skip the rest of a line. -/
def skipComment : (fuel : Nat) → Read Unit
  | 0 => return
  | fuel + 1 => do
    match ← next with
    | none => return
    | some '\n' => putBack ['\n']
    | some _ => skipComment fuel

/-- Read the next sign or word. -/
def readRaw (inner : Substitution) : (fuel : Nat) → Read Token
  | 0 => token .endOfText
  | fuel + 1 => do
    if (← get).held then
      modify fun reading => { reading with held := false }
      return (← get).token
    match ← nextChar with
    | none => token .endOfText
    | some ' ' | some '\t' => readRaw inner fuel
    | some '#' =>
      skipComment textLimit
      readRaw inner fuel
    | some '\n' =>
      countLine
      token .newline
    | some '&' => doubled '&' .ampersand .andAnd
    | some '|' => doubled '|' .pipe .orOr
    | some ';' => doubled ';' .semicolon .endBranch
    | some '(' => token .openParen
    | some ')' => token .closeParen
    | some c => readWord inner c

/-- Read the next token that is no newline, and the texts behind each line. -/
def skipNewlines (inner : Substitution) : (fuel : Nat) → Token → Read Token
  | 0, read => return read
  | fuel + 1, read => do
    if read = .newline then
      readPending inner
      skipNewlines inner fuel (← readRaw inner textLimit)
    else return read

/-- Read the next token by what it may be. -/
def readTokenAs (inner : Substitution) (expectation : Expectation) : (fuel : Nat) → Read Token
  | 0 => return .endOfText
  | fuel + 1 => do
    let read ← readRaw inner textLimit
    let read ← if expectation.skipsNewlines then skipNewlines inner textLimit read else pure read
    let reading ← get
    let expectation :=
      { expectation with aliases := expectation.aliases || reading.expectation.aliases }
    expect {}
    if read ≠ .word || reading.quoted then return read
    match plainText? reading.word with
    | none => return read
    | some text =>
      match if expectation.reserved then reserved? text else none with
      | some reserved => token reserved
      | none =>
        if expectation.aliases then
          match ← alias? text with
          | some value =>
            unless value.isEmpty do enterAlias text value
            readTokenAs inner expectation fuel
          | none => return read
        else return read

/-- How many aliases in a row a word may stand for. -/
def aliasLimit : Nat := 100000

/-- Read the next token. -/
def readToken (inner : Substitution) : Read Token := do
  readTokenAs inner (← get).expectation aliasLimit

end Read

end BenchRelay.Shell
