import BenchRelay.Shell.Source

/-!
# Words that are being read

What a character means depends on what stands around it: quotes of either kind, an expression, a
parameter in braces. A draft keeps the levels of all that is open, and the parts of the word so far.
A parameter opens a level of its own only where its word is read in another way than what surrounds
it; else its braces are counted.
-/

namespace BenchRelay.Shell

/-- How characters are read. -/
inductive Mode where
  | plain
  | doubleQuotes
  | singleQuotes
  | arithmetic
  deriving Repr, DecidableEq

/-- What a character means. -/
inductive Meaning where
  | newline
  /-- Itself. -/
  | itself
  /-- Itself in a mode where it means more elsewhere. -/
  | guarded
  | backslash
  | singleQuote
  | doubleQuote
  /-- The end of quotes. -/
  | endQuotes
  | dollar
  | closeBrace
  | openParen
  | closeParen
  | backquote
  /-- The end of the word. -/
  | separator
  deriving Repr, DecidableEq

/-- The characters that mean more in patterns, paths and assignments than themselves. -/
def patternChars : Text := "!*?[=~:/-]".toList

/-- What a character means in each mode. -/
def Mode.meaning (mode : Mode) (c : Char) : Meaning :=
  match mode with
  | .plain =>
    if "<>();&| \t".toList.contains c then .separator
    else match c with
      | '\n' => .newline
      | '\\' => .backslash
      | '\'' => .singleQuote
      | '"' => .doubleQuote
      | '`' => .backquote
      | '$' => .dollar
      | '\x7d' => .closeBrace
      | _ => .itself
  | .doubleQuotes =>
    if patternChars.contains c then .guarded
    else match c with
      | '\n' => .newline
      | '\\' => .backslash
      | '"' => .endQuotes
      | '`' => .backquote
      | '$' => .dollar
      | '\x7d' => .closeBrace
      | _ => .itself
  | .singleQuotes =>
    if patternChars.contains c || c = '\\' then .guarded
    else match c with
      | '\n' => .newline
      | '\'' => .endQuotes
      | _ => .itself
  | .arithmetic =>
    match c with
    | '\n' => .newline
    | '\\' => .backslash
    | '`' => .backquote
    | '$' => .dollar
    | '\x7d' => .closeBrace
    | '(' => .openParen
    | ')' => .closeParen
    | _ => .itself

/-- What surrounds the next character. -/
structure Level where
  mode : Mode
  /-- Whether it is within double quotes, or what is read like them. -/
  doubled : Bool := false
  /-- Whether double quotes are open within the braces of a parameter. -/
  innerQuotes : Bool := false
  /-- Whether the level ends with the braces of a parameter. -/
  ofParameter : Bool := false
  /-- How many parameters in braces are open. -/
  braces : Nat := 0
  /-- How many of them are within double quotes. -/
  quotedBraces : Nat := 0
  /-- How many parentheses of an expression are open. -/
  parens : Nat := 0
  deriving Repr

/-- What is open around the parts at hand, with the parts in front of it, the last one first. -/
inductive Opening where
  | parameter (name : Text) (use : Use) (before : List Part)
  | arithmetic (before : List Part)

/-- A word that is being read. -/
structure Draft where
  level : Level
  /-- The levels around it, the innermost first. -/
  outer : List Level := []
  openings : List Opening := []
  /-- The parts so far within all that is open, the last one first. -/
  parts : List Part := []
  /-- Whether any of it was quoted. -/
  quoted : Bool := false

namespace Draft

/-- Add a part. -/
def add (draft : Draft) (part : Part) : Draft := { draft with parts := part :: draft.parts }

/-- Add a character. -/
def char (draft : Draft) (c : Char) (escaped : Bool) : Draft := draft.add (.char c escaped)

/-- Open a parameter or an expression. -/
def enter (draft : Draft) (opening : List Part → Opening) : Draft :=
  { draft with openings := opening draft.parts :: draft.openings, parts := [] }

/-- Close what was opened last. -/
def leave (draft : Draft) : Draft :=
  match draft.openings with
  | [] => draft
  | .parameter name use before :: openings =>
    { draft with openings, parts := .parameter name use draft.parts.reverse :: before }
  | .arithmetic before :: openings =>
    { draft with openings, parts := .arithmetic draft.parts.reverse :: before }

/-- Change what surrounds the next character. -/
def atLevel (draft : Draft) (change : Level → Level) : Draft :=
  { draft with level := change draft.level }

/-- Begin a level. -/
def push (draft : Draft) (level : Level) : Draft :=
  { draft with level, outer := draft.level :: draft.outer }

/-- End a level. -/
def pop (draft : Draft) : Draft :=
  match draft.outer with
  | level :: outer => { draft with level, outer }
  | [] => draft

/-- Note the edge of quotes, unless the word is a text within the script. -/
def mark (draft : Draft) (inText : Bool) : Draft := if inText then draft else draft.add .mark

/-- Note the edge of double quotes. -/
def markDouble (draft : Draft) (inText : Bool) : Draft :=
  (draft.atLevel fun level =>
    if level.braces > 0 then { level with innerQuotes := !level.innerQuotes }
    else level).mark inText

/-- Begin single quotes. -/
def beginSingle (draft : Draft) (inText : Bool) : Draft :=
  (draft.atLevel fun level => { level with mode := .singleQuotes }).mark inText

/-- Begin double quotes. -/
def beginDouble (draft : Draft) (inText : Bool) : Draft :=
  (draft.atLevel fun level => { level with mode := .doubleQuotes, doubled := true }).markDouble
    inText

/-- End quotes of the kind that a character says. -/
def endQuotes (draft : Draft) (inText : Bool) (c : Char) : Draft :=
  if inText && draft.level.braces = 0 then draft.char c false
  else
    let draft := draft.atLevel fun level =>
      if level.quotedBraces = 0 then { level with mode := .plain, doubled := false } else level
    let draft := { draft with quoted := true }
    if c = '"' then draft.markDouble inText else draft.mark inText

/-- Read a closing brace, which ends a parameter if one is open. -/
def closeBrace (draft : Draft) : Draft :=
  let level := draft.level
  if level.innerQuotes || level.braces = 0 then draft.char '\x7d' false
  else
    let level := { level with braces := level.braces - 1 }
    let draft := { draft with level }.leave
    if level.braces = 0 && level.ofParameter then draft.pop
    else draft.atLevel fun level => { level with quotedBraces := level.quotedBraces - 1 }

/-- Begin an expression. -/
def beginArithmetic (draft : Draft) : Draft :=
  (draft.push { mode := .arithmetic, doubled := true }).enter .arithmetic

/-- Begin the word of a parameter, which a pattern is read for as if nothing were quoted. -/
def beginParameter (draft : Draft) (name : Text) (use : Use) (isPattern : Bool) : Draft :=
  let mode : Mode :=
    if isPattern then .plain
    else if draft.level.mode = .arithmetic then .doubleQuotes
    else draft.level.mode
  let draft :=
    if mode ≠ draft.level.mode || draft.level.innerQuotes then
      draft.push { mode, doubled := mode ≠ .plain, ofParameter := true }
    else draft
  (draft.atLevel fun level =>
    { level with
      braces := level.braces + 1
      quotedBraces := if level.doubled then level.quotedBraces + 1 else level.quotedBraces }).enter
    (.parameter name use)

/-- Whether a backslash in front of a character stands for itself. -/
def keepsBackslash (draft : Draft) (inText : Bool) (c : Char) : Bool :=
  let level := draft.level
  level.doubled && c ≠ '\\' && c ≠ '`' && c ≠ '$' &&
    (c ≠ '"' || (inText && level.braces = 0)) && (c ≠ '\x7d' || level.braces = 0)

/-- The parts of the whole word. -/
def word (draft : Draft) : Word := draft.parts.reverse

end Draft

end BenchRelay.Shell
