import BenchRelay.Shell.Token
import BenchRelay.Shell.Tree

/-!
# Reading the text of a script

The text of a script is taken character by character. Where an alias stands for other text, that
text is put in front of the rest; the alias is in use until the character behind its text is asked
for, and means nothing within it. One token may be put back.
-/

namespace BenchRelay.Shell

/-- A text that is being read, as it stands or in place of an alias. -/
structure Excerpt where
  rest : Text
  alias? : Option Text := none
  /-- Whether the text of the alias ends in a blank, so that the next word may be an alias too. -/
  endsBlank : Bool := false

/-- What the next token may be. -/
structure Expectation where
  /-- Whether newlines in front of it do not count. -/
  skipsNewlines : Bool := false
  /-- Whether it may be a reserved word. -/
  reserved : Bool := false
  /-- Whether it may be an alias. -/
  aliases : Bool := false
  /-- Whether it ends a text of the script, so that nothing in it is replaced. -/
  endMark : Bool := false

/-- Where a command may begin, in the same line or a later one. -/
def Expectation.command (skipsNewlines : Bool) : Expectation :=
  { skipsNewlines, reserved := true, aliases := true }

/-- A text within a script that is still to be read. -/
structure HereDocument where
  number : Nat
  /-- The line that ends it. -/
  endMark : Text
  /-- Whether tabs at the start of its lines do not count. -/
  stripsTabs : Bool
  /-- Whether parameters in it are replaced. -/
  expands : Bool

/-- A redirection whose target is still to be read. -/
inductive Redirecting where
  | file (access : Access)
  | copy
  | here (stripsTabs : Bool)

/-- A place in the text of a script, and what is known there. -/
structure Reading where
  /-- The texts that are being read, the innermost first. -/
  excerpts : List Excerpt
  /-- Aliases whose text has just ended. -/
  ended : List Text := []
  /-- The number of the line. -/
  line : Nat := 1
  /-- Whether the last token was put back. -/
  held : Bool := false
  token : Token := .endOfText
  /-- The word that was read last, and whether any of it was quoted. -/
  word : Word := []
  quoted : Bool := false
  /-- The redirection that was read last. -/
  redirecting : Nat × Redirecting := (0, .copy)
  expectation : Expectation := {}
  /-- The texts within the script that are to be read behind this line. -/
  pending : List HereDocument := []
  /-- The texts within the script that were read so far, by their numbers. -/
  hereTexts : List (Nat × Word) := []
  /-- The number of the next text within the script. -/
  nextNumber : Nat := 0
  aliases : List (Text × Text) := []

/-- Why a text is no script, and the line where that is seen. -/
structure Misreading where
  line : Nat
  reason : Text

/-- The wording of a misreading. -/
def Misreading.message (misreading : Misreading) : Text := "Syntax error: " ++ misreading.reason

/-- A step in reading a script. -/
abbrev Read (α : Type) := EStateM Misreading Reading α

namespace Read

/-- Give up. -/
def fail {α : Type} (reason : Text) : Read α := do
  throw { line := (← get).line, reason }

/-- Take the next character of some texts, and the aliases that end before it. -/
def advance : List Excerpt → Option Char × List Excerpt × List Excerpt
  | [] => (none, [], [])
  | excerpt :: outer =>
    match excerpt.rest with
    | c :: rest => (some c, [], { excerpt with rest } :: outer)
    | [] =>
      if outer.isEmpty then (none, [], [excerpt])
      else
        let (c, ended, outer) := advance outer
        (c, excerpt :: ended, outer)

/-- Take the next character, if there is one. -/
def next : Read (Option Char) :=
  modifyGet fun reading =>
    let (c, ended, excerpts) := advance reading.excerpts
    let expectation :=
      if ended.any Excerpt.endsBlank then { reading.expectation with aliases := true }
      else reading.expectation
    (c, { reading with excerpts, ended := ended.filterMap Excerpt.alias?, expectation })

/-- Put characters back. -/
def putBack (text : Text) : Read Unit :=
  modify fun reading =>
    match reading.excerpts with
    | excerpt :: outer =>
      { reading with excerpts := { excerpt with rest := text ++ excerpt.rest } :: outer }
    | [] => { reading with excerpts := [{ rest := text }] }

/-- Put a character back, if there was one. -/
def putBack? (c : Option Char) : Read Unit := putBack c.toList

/-- Count a line. -/
def countLine : Read Unit := modify fun reading => { reading with line := reading.line + 1 }

/-- Take the next character that is not in the middle of a line broken by a backslash. -/
def nextJoined : (fuel : Nat) → Read (Option Char)
  | 0 => next
  | fuel + 1 => do
    match ← next with
    | some '\\' =>
      match ← next with
      | some '\n' =>
        countLine
        nextJoined fuel
      | c =>
        putBack? c
        return some '\\'
    | c => return c

/-- How many line breaks behind backslashes in a row are looked at. -/
def joinLimit : Nat := 100000

/-- Take the next character behind line breaks that do not count. -/
def nextChar : Read (Option Char) := nextJoined joinLimit

/-- Put the last token back. -/
def hold : Read Unit := modify fun reading => { reading with held := true }

/-- Say what the next token may be. -/
def expect (expectation : Expectation) : Read Unit :=
  modify fun reading => { reading with expectation }

/-- The value of an alias that is not in use. -/
def alias? (name : Text) : Read (Option Text) := do
  let reading ← get
  let inUse := reading.ended.contains name ||
    reading.excerpts.any fun excerpt => excerpt.alias? = some name
  return if inUse then none else reading.aliases.lookup name

/-- Read the text of an alias before anything else. -/
def enterAlias (name value : Text) : Read Unit :=
  modify fun reading =>
    let endsBlank := match value.getLast? with
      | some c => c == ' ' || c == '\t'
      | none => false
    let excerpt : Excerpt := { rest := value, alias? := some name, endsBlank }
    { reading with excerpts := excerpt :: reading.excerpts }

/-- Read a text of its own, and go on behind it. -/
def within {α : Type} (text : Text) (read : Read α) : Read α := do
  let outer ← get
  set { outer with excerpts := [{ rest := text }], line := 1, held := false }
  let value ← read
  modify fun reading =>
    { reading with
      excerpts := outer.excerpts
      ended := outer.ended
      line := outer.line
      held := false }
  return value

/-- Give up at the last token where another one may be expected. -/
def unexpected {α : Type} (expected : Option Token) : Read α := do
  let found := (← get).token.name
  match expected with
  | none => fail (found ++ " unexpected".toList)
  | some token => fail (found ++ " unexpected (expecting ".toList ++ token.name ++ [')'])

end Read

end BenchRelay.Shell
