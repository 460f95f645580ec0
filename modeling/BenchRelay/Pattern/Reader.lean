import BenchRelay.Pattern.Basic
import BenchRelay.Text.Alphanumeric
import BenchRelay.Text.Blank

/-!
# Reading patterns

Where a pattern is verbose, blanks and comments between its parts mean nothing. A pattern is part of
a field in braces, so none holds both braces of a pair: a count of repetitions, a number in braces
and a property have no end.
-/

namespace BenchRelay.Pattern

/-- Skip blanks and comments, within a comment or not. -/
def skipFrom (inComment : Bool) : Text → Text
  | [] => []
  | c :: rest =>
    if inComment then skipFrom (c ≠ '\n') rest
    else if c = '#' then skipFrom true rest
    else if isBlankChar c then skipFrom false rest
    else c :: rest

/-- Skip what means nothing. -/
def skip (verbose : Bool) (text : Text) : Text := if verbose then skipFrom false text else text

/-! ## Characters -/

/-- Whether a character is a hexadecimal digit. -/
def isHexDigit (c : Char) : Bool :=
  c.isDigit || ('a' ≤ c && c ≤ 'f') || ('A' ≤ c && c ≤ 'F')

/-- The value of a hexadecimal digit. -/
def hexValue (c : Char) : Nat :=
  if c.isDigit then c.toNat - '0'.toNat else c.toLower.toNat - 'a'.toNat + 10

/-- So many hexadecimal digits: the number that they make behind another one. -/
def hexNumber? (verbose : Bool) : (count number : Nat) → Text → Option (Nat × Text)
  | 0, number, text => some (number, text)
  | count + 1, number, text =>
    match skip verbose text with
    | [] => none
    | c :: rest =>
      if isHexDigit c then hexNumber? verbose count (number * 16 + hexValue c) rest else none

/-- The character of a number in so many hexadecimal digits. -/
def numbered? (verbose : Bool) (count : Nat) (text : Text) : Option (Pattern × Text) := do
  let (number, rest) ← hexNumber? verbose count 0 text
  if number.isValidChar then some (.literal (Char.ofNat number) (count = 2), rest) else none

/-- Whether a backslash may stand in front of a character that means itself. -/
def isEscapable (c : Char) : Bool := c.toNat < 0x80 && !c.isAlphanum && c ≠ '<' && c ≠ '>'

/-- The letters for control characters. -/
def controls : List (Char × Char) :=
  [('a', '\x07'), ('f', '\x0c'), ('t', '\t'), ('n', '\n'), ('r', '\r'), ('v', '\x0b')]

/-- Read what is behind a backslash. -/
def escaped? (verbose : Bool) : Text → Option (Pattern × Text)
  | [] => none
  | 'x' :: rest => numbered? verbose 2 rest
  | 'u' :: rest => numbered? verbose 4 rest
  | 'U' :: rest => numbered? verbose 8 rest
  | c :: rest =>
    if ['d', 's', 'w'].contains c then some (.short false, rest)
    else if ['D', 'S', 'W'].contains c then some (.short true, rest)
    else if ['A', 'z'].contains c then some (.edge false, rest)
    else if ['b', 'B', '<', '>'].contains c then some (.edge true, rest)
    else if isEscapable c then some (.literal c false, rest)
    else (controls.lookup c).map fun control => (.literal control false, rest)

/-- Read one part that is neither a group nor a set. -/
def primitive? (verbose : Bool) : Text → Option (Pattern × Text)
  | [] => none
  | '\\' :: rest => escaped? verbose rest
  | '.' :: rest => some (.any, rest)
  | '^' :: rest => some (.edge false, rest)
  | '$' :: rest => some (.edge false, rest)
  | c :: rest => some (.literal c false, rest)

/-! ## Sets -/

/-- The sets of ASCII characters that have full names. -/
def namedSets : List (String × CodePoints) :=
  [("alnum", [(0x30, 0x39), (0x41, 0x5A), (0x61, 0x7A)]), ("alpha", [(0x41, 0x5A), (0x61, 0x7A)]),
    ("ascii", [(0x00, 0x7F)]), ("blank", [(0x09, 0x09), (0x20, 0x20)]),
    ("cntrl", [(0x00, 0x1F), (0x7F, 0x7F)]), ("digit", [(0x30, 0x39)]), ("graph", [(0x21, 0x7E)]),
    ("lower", [(0x61, 0x7A)]), ("print", [(0x20, 0x7E)]),
    ("punct", [(0x21, 0x2F), (0x3A, 0x40), (0x5B, 0x60), (0x7B, 0x7E)]),
    ("space", [(0x09, 0x0D), (0x20, 0x20)]), ("upper", [(0x41, 0x5A)]),
    ("word", [(0x30, 0x39), (0x41, 0x5A), (0x5F, 0x5F), (0x61, 0x7A)]),
    ("xdigit", [(0x30, 0x39), (0x41, 0x46), (0x61, 0x66)])]

/-- Read a set by its full name, behind the opening bracket. -/
def namedSet? : Text → Option (CharSet × Text)
  | ':' :: text =>
    let (negated, text) := match text with
      | '^' :: rest => (true, rest)
      | text => (false, text)
    match text.dropWhile (· ≠ ':') with
    | ':' :: ']' :: rest =>
      (namedSets.lookup (String.ofList (text.takeWhile (· ≠ ':')))).map fun members =>
        (.named negated members, rest)
    | _ => none
  | _ => none

/-- A part of a pattern as a member of a set. -/
def asMember? : Pattern → Option CharSet
  | .literal c _ => some (.char c)
  | .short negated => some (.short negated)
  | _ => none

/-- Read a member of a set: an escape, or a character that means itself. -/
def plainMember? (verbose : Bool) : Text → Option (CharSet × Text)
  | [] => none
  | '\\' :: rest => do
    let (part, rest) ← escaped? verbose rest
    some (← asMember? part, rest)
  | c :: rest => some (.char c, rest)

/-- Read a member of a set or a range. A dash in front of a bracket or another dash makes no
range. -/
def member? (verbose : Bool) (text : Text) : Option (CharSet × Text) := do
  let (first, rest) ← plainMember? verbose text
  match skip verbose rest with
  | [] => none
  | '-' :: behind =>
    match skip verbose behind with
    | ']' :: _ => some (first, '-' :: behind)
    | '-' :: _ => some (first, '-' :: behind)
    | text =>
      match first, ← plainMember? verbose text with
      | .char first, (.char last, rest) =>
        if first ≤ last then some (.range first last, rest) else none
      | _, _ => none
  | rest => some (first, rest)

/-- Dashes at the start of a set, and the text behind them. -/
def leadingDashes (verbose : Bool) : (fuel : Nat) → Text → List CharSet × Text
  | fuel + 1, '-' :: rest =>
    let (members, rest) := leadingDashes verbose fuel (skip verbose rest)
    (.char '-' :: members, rest)
  | _, text => ([], text)

/-- The members at the start of a set that would mean something else later: dashes, or one closing
bracket. -/
def leadingMembers (verbose : Bool) (text : Text) : List CharSet × Text :=
  match text with
  | ']' :: rest => ([.char ']'], rest)
  | text => leadingDashes verbose text.length text

/-- A set that waits for its right side. -/
abbrev LeftSide := Option (SetOperator × CharSet)

/-- The set of members, the last one first, behind a left side. -/
def closeSet (left : LeftSide) (members : List CharSet) : CharSet :=
  let right := CharSet.ofMembers members.reverse
  match left with
  | none => right
  | some (operator, left) => .combined operator left right

mutual

/-- Read a set behind its opening bracket. -/
def set? (verbose : Bool) : (fuel : Nat) → Text → Option (Bool × CharSet × Text)
  | 0, _ => none
  | fuel + 1, text => do
    let (negated, rest) := match skip verbose text with
      | '^' :: rest => (true, skip verbose rest)
      | rest => (false, rest)
    let (members, rest) := leadingMembers verbose rest
    let (set, rest) ← members? verbose fuel none members.reverse rest
    some (negated, set, rest)

/-- Read the members of a set up to its closing bracket, behind those already read, the last one
first. -/
def members? (verbose : Bool) : (fuel : Nat) → LeftSide → List CharSet → Text →
    Option (CharSet × Text)
  | 0, _, _, _ => none
  | fuel + 1, left, members, text =>
    match skip verbose text with
    | [] => none
    | ']' :: rest => some (closeSet left members, rest)
    | '[' :: rest =>
      match namedSet? rest with
      | some (set, rest) => members? verbose fuel left (set :: members) rest
      | none => do
        let (negated, set, rest) ← set? verbose fuel rest
        members? verbose fuel left (.nested negated set :: members) rest
    | '&' :: '&' :: rest =>
      members? verbose fuel (some (.intersection, closeSet left members)) [] rest
    | '-' :: '-' :: rest =>
      members? verbose fuel (some (.difference, closeSet left members)) [] rest
    | '~' :: '~' :: rest =>
      members? verbose fuel (some (.symmetricDifference, closeSet left members)) [] rest
    | text => do
      let (member, rest) ← member? verbose text
      members? verbose fuel left (member :: members) rest

end

/-! ## Groups -/

/-- What an opening parenthesis begins. -/
inductive Opening where
  /-- Nothing: it sets flags. -/
  | flags (change : FlagChange)
  /-- A group with flags of its own. -/
  | group (change : FlagChange)
  /-- A group with a name. -/
  | named (name : Text)

/-- The letters of the flags. -/
def flagLetters : Text := "imsUuRx"

/-- The change of flags that letters say; those behind a dash are cleared. -/
def flagChange? (letters : Text) : Option FlagChange :=
  if letters.all (fun c => c = '-' || flagLetters.contains c) && decide letters.Nodup &&
      letters.getLast? ≠ some '-' then
    some ((letters.takeWhile (· ≠ '-')).map (·, true) ++
      ((letters.dropWhile (· ≠ '-')).drop 1).map (·, false))
  else none

/-- Read flags behind their question mark. -/
def flags? (text : Text) : Option (Opening × Text) := do
  let isEnd (c : Char) : Bool := c = ':' || c = ')'
  let letters := text.takeWhile (!isEnd ·)
  let change ← flagChange? letters
  match text.dropWhile (!isEnd ·) with
  | ':' :: rest => some (.group change, rest)
  | ')' :: rest => if letters.isEmpty then none else some (.flags change, rest)
  | _ => none

/-- Whether a text may be the name of a group. -/
def isGroupName : Text → Bool
  | [] => false
  | c :: rest =>
    (c = '_' || isAlphabetic c) &&
      rest.all fun c => ['_', '.', '[', ']'].contains c || isAlphanumeric c

/-- Read the name of a group up to its closing bracket. -/
def groupName? (text : Text) : Option (Opening × Text) :=
  let name := text.takeWhile (· ≠ '>')
  match text.dropWhile (· ≠ '>') with
  | '>' :: rest => if isGroupName name then some (.named name, rest) else none
  | _ => none

/-- Read what an opening parenthesis begins. -/
def opening? : Text → Option (Opening × Text)
  | '?' :: 'P' :: '<' :: rest => groupName? rest
  | '?' :: '<' :: rest => groupName? rest
  | '?' :: rest => flags? rest
  | rest => some (.group [], rest)

/-! ## Patterns as a whole -/

/-- What reading a pattern has to remember. -/
structure Scan where
  verbose : Bool := false
  /-- The names of groups so far. -/
  names : List Text := []

/-- Take in a change of flags. -/
def Scan.apply (scan : Scan) (change : FlagChange) : Scan :=
  { scan with verbose := (change.lookup 'x').getD scan.verbose }

/-- Take in what an opening parenthesis begins, if a name is new: the flags of the group, and what
is to be remembered in it. -/
def Scan.enter? (scan : Scan) : Opening → Option (FlagChange × Scan)
  | .flags change => some (change, scan.apply change)
  | .group change => some (change, scan.apply change)
  | .named name =>
    if scan.names.contains name then none else some ([], { scan with names := name :: scan.names })

/-- Repeat the last one of some parts, the last one first. -/
def repeatLast? : List Pattern → Option (List Pattern)
  | [] => none
  | .flags _ :: _ => none
  | part :: parts => some (.repeated part :: parts)

/-- Whether a character says how often the part in front of it is repeated. -/
def isRepetition (c : Char) : Bool := c = '?' || c = '*' || c = '+'

/-- Read a pattern up to its end or the closing parenthesis of its group, behind parts and branches
already read, the last ones first. -/
def patternFrom : (fuel : Nat) → Scan → (parts branches : List Pattern) → Text →
    Option (Pattern × Scan × Text)
  | 0, _, _, _, _ => none
  | fuel + 1, scan, parts, branches, text =>
    let done := ofBranches (ofItems parts.reverse :: branches).reverse
    match skip scan.verbose text with
    | [] => some (done, scan, [])
    | ')' :: rest => some (done, scan, ')' :: rest)
    | '|' :: rest => patternFrom fuel scan [] (ofItems parts.reverse :: branches) rest
    | '(' :: rest => do
      let (opening, rest) ← opening? (skip scan.verbose rest)
      let (change, inner) ← scan.enter? opening
      match opening with
      | .flags _ => patternFrom fuel inner (.flags change :: parts) branches rest
      | _ =>
        match ← patternFrom fuel inner [] [] rest with
        | (body, inner, ')' :: rest) =>
          patternFrom fuel { inner with verbose := scan.verbose } (.group change body :: parts)
            branches rest
        | _ => none
    | '[' :: rest => do
      let (negated, set, rest) ← set? scan.verbose (2 * rest.length + 2) rest
      patternFrom fuel scan (.oneOf negated set :: parts) branches rest
    | '\x7b' :: _ => none
    | c :: rest =>
      if isRepetition c then do
        let rest := match rest with
          | '?' :: rest => rest
          | rest => rest
        patternFrom fuel scan (← repeatLast? parts) branches rest
      else do
        let (part, rest) ← primitive? scan.verbose (c :: rest)
        patternFrom fuel scan (part :: parts) branches rest

/-- Read a pattern. -/
def read (text : Text) : Option Pattern :=
  match patternFrom (text.length + 1) {} [] [] text with
  | some (pattern, _, []) => some pattern
  | _ => none

end BenchRelay.Pattern
