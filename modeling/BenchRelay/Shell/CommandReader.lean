import BenchRelay.Shell.WordReader

/-!
# Reading commands

A script is read one command line at a time, so that what one line does, such as setting an alias,
holds for the next. Every reader here spends fuel; as much as a script has characters is enough, and
some more for aliases.
-/

namespace BenchRelay.Shell

/-- The commands of the shell itself that no function may be named after, and whose failure ends a
script. -/
def specialBuiltins : List String :=
  [".", ":", "break", "continue", "eval", "exec", "exit", "export", "local", "readonly", "return",
    "set", "shift", "times", "trap", "unset"]

/-- Whether a text is the name of such a command. -/
def isSpecialBuiltin (name : Text) : Bool := specialBuiltins.contains (String.ofList name)

/-- Where a list of commands stands. -/
inductive ListPlace where
  /-- In a line of the script. -/
  | line
  /-- Between words that hold commands together, so that there has to be a command. -/
  | between
  /-- Where there may be none. -/
  | optional
  deriving Repr, DecidableEq

/-- What a line of a script says. -/
inductive Line where
  /-- Commands, perhaps none, and whether the script ends behind them. -/
  | commands (body : Command) (isLast : Bool)
  /-- The end of the script. -/
  | ended

namespace Read

/-- Put the last token back, to be read again as it was. -/
def holding {α : Type} (value : α) : Read α := do
  hold
  return value

/-- A command that is not waited for. -/
def inBackground : Command → Command
  | .pipeline _ stages => .pipeline true stages
  | .redirected line body redirects => .background line body redirects
  | body => .background 0 body []

/-- Two commands in a row, of which the first may be missing. -/
def inRow : Option Command → Command → Command
  | none, second => second
  | some first, second => .chain .always first second

/-- The text that a word stands for once its quotes are taken off. -/
def unquoted (word : Word) : Text :=
  word.flatMap fun
    | .char c _ => [c]
    | _ => []

/-- Read the target of a redirection. -/
def readTarget (inner : Substitution) : Read Redirect := do
  let (descriptor, redirecting) := (← get).redirecting
  match redirecting with
  | .here _ => expect { endMark := true }
  | _ => pure ()
  unless (← readToken inner) = .word do unexpected none
  let reading ← get
  match redirecting with
  | .file access => return .file descriptor access reading.word
  | .copy =>
    match plainText? reading.word with
    | some ['-'] => return .copy descriptor none
    | some [c] =>
      if c.isDigit then return .copy descriptor (some (c.toNat - '0'.toNat))
      else return .copyNamed descriptor reading.word
    | _ => return .copyNamed descriptor reading.word
  | .here stripsTabs =>
    let number := reading.nextNumber
    let document : HereDocument :=
      { number, endMark := unquoted reading.word, stripsTabs, expands := !reading.quoted }
    set { reading with nextNumber := number + 1, pending := reading.pending ++ [document] }
    return .hereText descriptor number

/-- Read the redirections behind a command. -/
def readRedirects (inner : Substitution) : (fuel : Nat) → Read (List Redirect)
  | 0 => return []
  | fuel + 1 => do
    match ← readToken inner with
    | .redirection =>
      let redirect ← readTarget inner
      return redirect :: (← readRedirects inner fuel)
    | _ => holding []

/-- Read words up to another token. -/
def readWords (inner : Substitution) : (fuel : Nat) → Read (List Word)
  | 0 => return []
  | fuel + 1 => do
    match ← readToken inner with
    | .word =>
      let word := (← get).word
      return word :: (← readWords inner fuel)
    | _ => return []

/-- The patterns of a branch behind the first one, up to another sign than the one between them. -/
def readPatterns (inner : Substitution) : (fuel : Nat) → Read (List Word)
  | 0 => return []
  | fuel + 1 => do
    let word := (← get).word
    match ← readToken inner with
    | .pipe =>
      let _ ← readToken inner
      return word :: (← readPatterns inner fuel)
    | _ => return [word]

/-- The parts of a simple command that were read so far, the last ones first. -/
structure SimpleDraft where
  assignments : List (Text × Word) := []
  words : List Word := []
  redirects : List Redirect := []

/-- The name of the function that a simple command with nothing but one word begins to define. -/
def SimpleDraft.functionName? (draft : SimpleDraft) : Option Word :=
  match draft.assignments, draft.words, draft.redirects with
  | [], [word], [] => some word
  | _, _, _ => none

/-- The simple command that a draft is. -/
def SimpleDraft.command (line : Nat) (draft : SimpleDraft) : Command :=
  .simple line draft.assignments.reverse draft.words.reverse draft.redirects.reverse

/-- Whether a function may have a name. -/
def checkFunctionName (word : Word) : Read Text := do
  match plainText? word with
  | some name =>
    if isName name && !isSpecialBuiltin name then return name else fail "Bad function name"
  | none => fail "Bad function name"

mutual

/-- Read the commands of a substitution. -/
def readSubstitution : (fuel : Nat) → Substitution
  | 0, _ => return .nothing
  | fuel + 1, untilParen => do
    let pending := (← get).pending
    modify fun reading => { reading with pending := [] }
    let body ← readList fuel .optional
    if untilParen then
      unless (← readToken (readSubstitution fuel)) = .closeParen do unexpected (some .closeParen)
    modify fun reading => { reading with pending }
    return body.getD .nothing

/-- Read a list of commands; nothing stands for the end of the script. -/
def readList : (fuel : Nat) → ListPlace → Read (Option Command)
  | 0, _ => return none
  | fuel + 1, place => readListBehind fuel place none

/-- Read a list of commands behind those read so far. -/
def readListBehind : (fuel : Nat) → ListPlace → Option Command → Read (Option Command)
  | 0, _, _ => return none
  | fuel + 1, place, before => do
    let inner := readSubstitution fuel
    expect (.command (place ≠ .line))
    let atEnd (before : Option Command) : Read (Option Command) := do
      readPending inner
      modify fun reading => { reading with token := .endOfText }
      holding before
    match ← readToken inner with
    | .newline =>
      readPending inner
      return some (before.getD .nothing)
    | .endOfText => atEnd (if place = .line then before else some (before.getD .nothing))
    | first =>
      hold
      if first.endsList && (place = .optional || (place = .between && before.isSome)) then
        return some (before.getD .nothing)
      let command ← readChain fuel
      let sign ← readToken inner
      let command := if sign = .ampersand then inBackground command else command
      let commands := inRow before command
      match sign with
      | .endOfText => atEnd (some commands)
      | .newline =>
        hold
        readListBehind fuel place (some commands)
      | .ampersand | .semicolon => readListBehind fuel place (some commands)
      | _ =>
        if place = .line then unexpected none
        holding (some commands)

/-- Read commands that go on by how the ones before them ended. -/
def readChain : (fuel : Nat) → Read Command
  | 0 => return .nothing
  | fuel + 1 => do readChainBehind fuel (← readPipeline fuel)

/-- Read such commands behind those read so far. -/
def readChainBehind : (fuel : Nat) → Command → Read Command
  | 0, before => return before
  | fuel + 1, before => do
    let link? : Option Link := match ← readToken (readSubstitution fuel) with
      | .andAnd => some .ifSuccess
      | .orOr => some .ifFailure
      | _ => none
    match link? with
    | none => holding before
    | some link =>
      expect (.command true)
      let next ← readPipeline fuel
      readChainBehind fuel (.chain link before next)

/-- Read a pipeline. -/
def readPipeline : (fuel : Nat) → Read Command
  | 0 => return .nothing
  | fuel + 1 => do
    let inner := readSubstitution fuel
    let negated := (← readToken inner) = .reserved "!"
    if negated then expect (.command false) else hold
    let first ← readCommand fuel
    let body ←
      if (← readToken inner) = .pipe then
        pure (.pipeline false (first :: (← readStages fuel)))
      else pure first
    hold
    return if negated then .not body else body

/-- Read the further stages of a pipeline. -/
def readStages : (fuel : Nat) → Read (List Command)
  | 0 => return []
  | fuel + 1 => do
    expect (.command true)
    let stage ← readCommand fuel
    if (← readToken (readSubstitution fuel)) = .pipe then return stage :: (← readStages fuel)
    return [stage]

/-- Read a list of commands that has to be there. -/
def readBody : (fuel : Nat) → Read Command
  | 0 => return .nothing
  | fuel + 1 => do return (← readList fuel .between).getD .nothing

/-- Take a token that has to follow. -/
def demand : (fuel : Nat) → Token → Read Unit
  | 0, _ => return
  | fuel + 1, expected => do
    unless (← readToken (readSubstitution fuel)) = expected do unexpected (some expected)

/-- Read a command. -/
def readCommand : (fuel : Nat) → Read Command
  | 0 => return .nothing
  | fuel + 1 => do
    let inner := readSubstitution fuel
    let line := (← get).line
    let closing (last : Token) (command : Command) : Read Command := do
      demand fuel last
      return command
    let simple? : Option Command ← match ← readToken inner with
      | .reserved "if" => some <$> readChoice fuel
      | .reserved "while" => some <$> readLoop fuel false
      | .reserved "until" => some <$> readLoop fuel true
      | .reserved "for" => some <$> readForEach fuel line
      | .reserved "case" => some <$> readSelect fuel line
      | .openParen => some <$> do
        let body ← readBody fuel
        closing .closeParen (.subshell line body [])
      | .reserved "\x7b" => some <$> do
        let body ← readBody fuel
        closing (.reserved "\x7d") body
      | .word | .redirection => pure none
      | _ => unexpected none
    match simple? with
    | none =>
      hold
      let line := (← get).line
      readSimple fuel line { aliases := true } {}
    | some command =>
      expect (.command false)
      let redirects ← readRedirects inner textLimit
      match command, redirects with
      | command, [] => return command
      | .subshell line body _, redirects => return .subshell line body redirects
      | command, redirects => return .redirected line command redirects

/-- Read a choice behind its first word, up to its end. -/
def readChoice : (fuel : Nat) → Read Command
  | 0 => return .nothing
  | fuel + 1 => do
    let condition ← readBody fuel
    demand fuel (.reserved "then")
    let yes ← readBody fuel
    match ← readToken (readSubstitution fuel) with
    | .reserved "elif" => return .choice condition yes (← readChoice fuel)
    | .reserved "else" =>
      let no ← readBody fuel
      demand fuel (.reserved "fi")
      return .choice condition yes no
    | _ =>
      hold
      demand fuel (.reserved "fi")
      return .choice condition yes .nothing

/-- Read a loop behind its first word. -/
def readLoop : (fuel : Nat) → (untilSuccess : Bool) → Read Command
  | 0, _ => return .nothing
  | fuel + 1, untilSuccess => do
    let condition ← readBody fuel
    demand fuel (.reserved "do")
    let body ← readBody fuel
    demand fuel (.reserved "done")
    return .loop untilSuccess condition body

/-- Read a loop over words behind its first word. -/
def readForEach : (fuel : Nat) → (line : Nat) → Read Command
  | 0, _ => return .nothing
  | fuel + 1, line => do
    let inner := readSubstitution fuel
    let isWord := (← readToken inner) = .word
    let reading ← get
    let name? := if isWord && !reading.quoted then plainText? reading.word else none
    match name?.filter isName with
    | none => fail "Bad for loop variable"
    | some name =>
      expect (.command true)
      let items ← match ← readToken inner with
        | .reserved "in" => do
          let words ← readWords inner textLimit
          let last := (← get).token
          unless last = .newline || last = .semicolon do unexpected none
          pure words
        | .semicolon => pure [allParameters]
        | _ => holding [allParameters]
      expect (.command true)
      demand fuel (.reserved "do")
      let body ← readBody fuel
      demand fuel (.reserved "done")
      return .forEach line name items body

/-- Read a choice by patterns behind its first word. -/
def readSelect : (fuel : Nat) → (line : Nat) → Read Command
  | 0, _ => return .nothing
  | fuel + 1, line => do
    let inner := readSubstitution fuel
    demand fuel .word
    let subject := (← get).word
    expect (.command true)
    demand fuel (.reserved "in")
    expect { skipsNewlines := true, reserved := true }
    let first ← readToken inner
    return .select line subject (← readBranches fuel first)

/-- Read the branches of a choice by patterns, of which the first token was read. -/
def readBranches : (fuel : Nat) → Token → Read (List (List Word × Command))
  | 0, _ => return []
  | _ + 1, .reserved "esac" => return []
  | fuel + 1, first => do
    let inner := readSubstitution fuel
    if first = .openParen then
      let _ ← readToken inner
    let patterns ← readPatterns inner textLimit
    unless (← get).token = .closeParen do unexpected (some .closeParen)
    let body := (← readList fuel .optional).getD .nothing
    match ← readToken inner with
    | .reserved "esac" => return [(patterns, body)]
    | .endBranch =>
      expect { skipsNewlines := true, reserved := true }
      let next ← readToken inner
      return (patterns, body) :: (← readBranches fuel next)
    | _ => unexpected (some .endBranch)

/-- Read a simple command or the definition of a function, behind what was read of it. -/
def readSimple : (fuel : Nat) → (line : Nat) → Expectation → SimpleDraft → Read Command
  | 0, _, _, _ => return .nothing
  | fuel + 1, line, expectation, draft => do
    let inner := readSubstitution fuel
    expect expectation
    match ← readToken inner with
    | .word =>
      let word := (← get).word
      match if expectation.aliases then assignmentOf? word else none with
      | some assignment =>
        readSimple fuel line expectation
          { draft with assignments := assignment :: draft.assignments }
      | none => readSimple fuel line {} { draft with words := word :: draft.words }
    | .redirection =>
      let redirect ← readTarget inner
      readSimple fuel line expectation { draft with redirects := redirect :: draft.redirects }
    | .openParen =>
      match draft.functionName? with
      | none => holding (draft.command line)
      | some word =>
        demand fuel .closeParen
        let name ← checkFunctionName word
        expect (.command true)
        let line := (← get).line
        return .define line name (← readCommand fuel)
    | _ => holding (draft.command line)

end

/-- How much fuel reading a line of a script takes at most. -/
def fuel : Nat := 1000000000

/-- Read a line of a script, with all that belongs to its commands. -/
def readLine : Read Line := do
  modify fun reading => { reading with held := false, pending := [], expectation := {} }
  match ← readList fuel .line with
  | none => return .ended
  | some body =>
    let reading ← get
    return .commands body (reading.held && reading.token = .endOfText)

end Read

end BenchRelay.Shell
