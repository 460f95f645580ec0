import BenchRelay.Files
import BenchRelay.Shell.Bytes
import BenchRelay.Shell.Field

/-!
# Patterns of a shell

A pattern is a text in which a star stands for any text, a question mark for any byte and brackets
for one of some bytes; behind a backslash every character stands for itself. Patterns choose
branches, cut values and stand for the paths that fit them.
-/

namespace BenchRelay.Shell.Glob

/-- The pattern that glyphs are: backslashes stand in front of those that were escaped. -/
def ofGlyphs (glyphs : List Glyph) : Text := from' true glyphs
where
  /-- The pattern of glyphs behind an even or odd number of backslashes. -/
  from' (protects : Bool) : List Glyph → Text
    | [] => []
    | .mark :: rest => from' true rest
    | .char '\\' false :: rest => '\\' :: from' (!protects) rest
    | .char c escaped :: rest =>
      if escaped && protects then '\\' :: c :: from' true rest else c :: from' true rest

/-- The number of a byte between -128 and 127, which ranges in brackets go by. -/
def rank (c : Char) : Int := if c.toNat < 128 then c.toNat else (c.toNat : Int) - 256

/-- The classes of characters that have names, and their members. -/
def classes : List (String × (Char → Bool)) :=
  let isGraphic (c : Char) : Bool := '!' ≤ c && c ≤ '~'
  [(":alnum:]", Char.isAlphanum),
    (":alpha:]", Char.isAlpha),
    (":blank:]", fun c => c == ' ' || c == '\t'),
    (":cntrl:]", fun c => c < ' ' || c == '\x7f'),
    (":digit:]", Char.isDigit),
    (":graph:]", isGraphic),
    (":lower:]", Char.isLower),
    (":print:]", fun c => ' ' ≤ c && c ≤ '~'),
    (":punct:]", fun c => isGraphic c && !c.isAlphanum),
    (":space:]", isSpace),
    (":upper:]", Char.isUpper),
    (":xdigit:]", fun c => c.isDigit || ('a' ≤ c && c ≤ 'f') || ('A' ≤ c && c ≤ 'F'))]

/-- Whether a character is in the class that a text begins with, and the text behind that. -/
def classAt? (c : Char) (text : Text) : Option (Bool × Text) :=
  classes.findSome? fun (name, isMember) =>
    (Text.dropStart? (String.toList name) text).map (isMember c, ·)

/-- Whether a character is among those in brackets, where some were looked at already, and the text
behind the brackets. -/
def bracketFrom (c : Char) : (fuel : Nat) → (found : Bool) → Text → Option (Bool × Text)
  | 0, _, _ => none
  | fuel + 1, found, text =>
    let goOn (found : Bool) : Text → Option (Bool × Text)
      | ']' :: rest => some (found, rest)
      | rest => bracketFrom c fuel found rest
    let member (first : Char) (rest : Text) : Option (Bool × Text) :=
      match rest with
      | '-' :: ']' :: _ => goOn (found || c == first) rest
      | '-' :: '\\' :: last :: rest =>
        goOn (found || (rank first ≤ rank c && rank c ≤ rank last)) rest
      | '-' :: last :: rest => goOn (found || (rank first ≤ rank c && rank c ≤ rank last)) rest
      | rest => goOn (found || c == first) rest
    match text with
    | [] => none
    | '[' :: rest =>
      match classAt? c rest with
      | some (isMember, rest) => goOn (found || isMember) rest
      | none => member '[' rest
    | '\\' :: first :: rest => member first rest
    | first :: rest => member first rest

/-- Whether a character fits brackets behind the opening one, and the text behind them; nothing
where they are never closed. -/
def bracket? (c : Char) (text : Text) : Option (Bool × Text) :=
  match text with
  | '!' :: rest => (bracketFrom c (rest.length + 1) false rest).map fun (found, rest) =>
      (!found, rest)
  | rest => bracketFrom c (rest.length + 1) false rest

/-- All ends of a text, the longest first. -/
def ends : Text → List Text
  | [] => [[]]
  | c :: rest => (c :: rest) :: ends rest

/-- Whether a text fits a pattern. -/
def fitsFrom : (fuel : Nat) → (pattern text : Text) → Bool
  | 0, _, _ => false
  | _ + 1, [], text => text.isEmpty
  | fuel + 1, '*' :: pattern, text =>
    let pattern := pattern.dropWhile (· == '*')
    pattern.isEmpty || (ends text).any (fitsFrom fuel pattern)
  | _ + 1, _ :: _, [] => false
  | fuel + 1, '?' :: pattern, _ :: text => fitsFrom fuel pattern text
  | fuel + 1, '[' :: pattern, c :: text =>
    match bracket? c pattern with
    | some (fits, pattern) => fits && fitsFrom fuel pattern text
    | none => c == '[' && fitsFrom fuel pattern text
  | fuel + 1, '\\' :: a :: pattern, c :: text => c == a && fitsFrom fuel pattern text
  | fuel + 1, a :: pattern, c :: text => c == a && fitsFrom fuel pattern text

/-- Whether a text fits a pattern. -/
def fits (pattern text : Text) : Bool := fitsFrom (pattern.length + 1) pattern text

/-- The text of glyphs up to the end of a positional parameter. -/
def firstText (glyphs : List Glyph) : Text := (textOf glyphs).takeWhile (· ≠ parameterEnd)

/-- Glyphs less the part at their start or end that fits a pattern, the shortest or longest one. The
search from the front ends with the first positional parameter. -/
def trim (fromEnd longest : Bool) (pattern : Text) (glyphs : List Glyph) : List Glyph :=
  let cuts :=
    if fromEnd = longest then List.range ((firstText glyphs).length + 1)
    else (List.range (glyphs.length + 1)).reverse
  if fromEnd then
    match cuts.find? fun i => fits pattern (firstText (glyphs.drop i)) with
    | some i => glyphs.take i
    | none => glyphs
  else
    match cuts.find? fun i => fits pattern (firstText (glyphs.take i)) with
    | some i => glyphs.drop i
    | none => glyphs

/-- Whether a text has brackets that are closed right behind an opening one. -/
def closesBracket : Text → Bool
  | '!' :: rest => within rest
  | rest => within rest
where
  /-- Whether brackets are closed behind the character at hand. -/
  within : Text → Bool
    | [] => false
    | '\\' :: _ :: ']' :: _ => true
    | '\\' :: _ :: rest => within rest
    | _ :: ']' :: _ => true
    | _ :: rest => within rest

/-- Whether a text means more in a pattern than itself. -/
def isPattern : Text → Bool
  | [] => false
  | '*' :: _ => true
  | '?' :: _ => true
  | '[' :: rest => closesBracket rest || isPattern rest
  | '\\' :: _ :: rest => isPattern rest
  | _ :: rest => isPattern rest

/-- The text that a pattern stands for that means no more than itself. -/
def literal : Text → Text
  | [] => []
  | '\\' :: c :: rest => c :: literal rest
  | c :: rest => c :: literal rest

/-- A pattern cut at its slashes. -/
def components : Text → List Text
  | [] => [[]]
  | '/' :: rest => [] :: components rest
  | '\\' :: '/' :: rest => [] :: components rest
  | '\\' :: c :: rest =>
    match components rest with
    | first :: others => ('\\' :: c :: first) :: others
    | [] => [['\\', c]]
  | c :: rest =>
    match components rest with
    | first :: others => (c :: first) :: others
    | [] => [[c]]

/-- The names in the directory of a path that fit a pattern. Names that begin with a point fit only
a pattern that does. -/
def namesFitting (files : Files) (directory pattern : Text) : List Text :=
  match files.resolve (toText (if directory.isEmpty then ['.'] else directory)) with
  | .error _ => []
  | .ok place =>
    if files.isDirectoryAt place then
      let hidden := match pattern with
        | '.' :: _ => true
        | '\\' :: '.' :: _ => true
        | _ => false
      (['.'] :: ['.', '.'] :: (files.namesAt place).map ofText).filter fun name =>
        (hidden || name.head? ≠ some '.') && fits pattern name
    else []

/-- The paths that begin with a given one and fit patterns for the names behind it. -/
def pathsFrom (files : Files) (start : Text) : List Text → List Text
  | [] => []
  | [last] =>
    if isPattern last then (namesFitting files start last).map (start ++ ·)
    else
      let path := start ++ literal last
      if (files.findLink? (toText path)).isSome then [path] else []
  | pattern :: later =>
    if isPattern pattern then
      (namesFitting files start pattern).flatMap fun name =>
        pathsFrom files (start ++ name ++ ['/']) later
    else pathsFrom files (start ++ literal pattern ++ ['/']) later

/-- Whether a text stands before another one, byte by byte. -/
def isBefore : Text → Text → Bool
  | [], _ => true
  | _ :: _, [] => false
  | a :: s, b :: t => a < b || (a == b && isBefore s t)

/-- The paths that fit a pattern, in their order. -/
def paths (files : Files) (pattern : Text) : List Text :=
  let parts := components pattern
  if parts.any isPattern then (pathsFrom files [] parts).mergeSort isBefore else []

end BenchRelay.Shell.Glob
