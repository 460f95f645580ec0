import BenchRelay.Toml.Quoted
import BenchRelay.Toml.Scalar
import BenchRelay.Toml.Table

/-!
# Reading TOML

A document is a list of lines, each empty, an entry or a header, with a comment at its end or none.
Arrays and inline tables may go over several lines with comments in between, also around the sign
between a key and its value, and with a comma behind the last item. They may be nested up to a
limit. Reading gives the table of the whole document.
-/

namespace BenchRelay.Toml

/-- How deep arrays and inline tables may be nested, and how many keys a dotted key may have. -/
def depthLimit : Nat := 80

/-- Whether a character may be part of a key without quotes. -/
def isBareKeyChar (c : Char) : Bool := c.isAlphanum || c == '_' || c == '-'

/-- Read one key. -/
def keyPart? : Text → Option (Text × Text)
  | '"' :: rest => basic? rest
  | '\'' :: rest => literal? rest
  | text =>
    let key := text.takeWhile isBareKeyChar
    if key.isEmpty then none else some (key, text.dropWhile isBareKeyChar)

/-- Read so many keys at most, with points between them. -/
def pathFrom : (most : Nat) → Text → Option (Path × Text)
  | 0, _ => none
  | most + 1, text => do
    let (key, rest) ← keyPart? text
    match skipBlanks rest with
    | '.' :: rest =>
      let (path, rest) ← pathFrom most (skipBlanks rest)
      some ({ path with parents := key :: path.parents }, rest)
    | rest => some ({ parents := [], key }, rest)

/-- Read a dotted key, and the blanks behind it. -/
def path? (text : Text) : Option (Path × Text) := pathFrom depthLimit text

/-- Skip blanks, line breaks and comments, within a comment or not. -/
def skipTriviaFrom (inComment : Bool) : Text → Option Text
  | [] => some []
  | '\n' :: rest => skipTriviaFrom false rest
  | '\r' :: '\n' :: rest => skipTriviaFrom false rest
  | c :: rest =>
    if inComment then if isPrintable c then skipTriviaFrom true rest else none
    else if isBlankInLine c then skipTriviaFrom false rest
    else if c = '#' then skipTriviaFrom true rest
    else some (c :: rest)

/-- Skip blanks, line breaks and comments. -/
def skipTrivia (text : Text) : Option Text := skipTriviaFrom false text

/-- Skip blanks and a comment up to the end of the line, which has to come then. -/
def lineEnd? (text : Text) : Option Text :=
  let rest := match skipBlanks text with
    | '#' :: rest => rest.dropWhile isPrintable
    | rest => rest
  if rest.isEmpty then some [] else lineBreak? rest

mutual

/-- Read a value that begins right here. -/
def valueFrom : (fuel depth : Nat) → Text → Option (Value × Text)
  | 0, _, _ => none
  | fuel + 1, depth, text =>
    match text with
    | [] => none
    | '[' :: rest =>
      match depth with
      | 0 => none
      | depth + 1 => do
        let (items, rest) ← itemsFrom fuel depth (← skipTrivia rest)
        some (.array items, rest)
    | '\x7b' :: rest =>
      match depth with
      | 0 => none
      | depth + 1 => do
        let (entries, rest) ← entriesFrom fuel depth [] (← skipTrivia rest)
        some (.table (entriesToValues entries), rest)
    | c :: rest =>
      if c = '"' || c = '\'' then (quoted? (c :: rest)).map fun (read, rest) => (.string read, rest)
      else readScalar (c :: rest)

/-- Read the items of an array up to its closing bracket. -/
def itemsFrom : (fuel depth : Nat) → Text → Option (List Value × Text)
  | 0, _, _ => none
  | _ + 1, _, ']' :: rest => some ([], rest)
  | fuel + 1, depth, text => do
    let (item, rest) ← valueFrom fuel depth text
    match ← skipTrivia rest with
    | ',' :: rest =>
      let (items, rest) ← itemsFrom fuel depth (← skipTrivia rest)
      some (item :: items, rest)
    | ']' :: rest => some ([item], rest)
    | _ => none

/-- Read the entries of an inline table up to its closing bracket, behind those already read. -/
def entriesFrom : (fuel depth : Nat) → Entries → Text → Option (Entries × Text)
  | 0, _, _, _ => none
  | _ + 1, _, entries, '\x7d' :: rest => some (entries, rest)
  | fuel + 1, depth, entries, text => do
    let (path, rest) ← path? text
    let rest ← expect? '=' (← skipTrivia rest)
    let (value, rest) ← valueFrom fuel depth (← skipTrivia rest)
    let entries ← entries.insertPath? path value
    match ← skipTrivia rest with
    | ',' :: rest => entriesFrom fuel depth entries (← skipTrivia rest)
    | '\x7d' :: rest => some (entries, rest)
    | _ => none

end

/-- Read a value; two steps for each character are enough. -/
def value? (text : Text) : Option (Value × Text) :=
  valueFrom (2 * text.length + 2) depthLimit text

/-- Read one statement up to the end of its line. -/
def statement? : Text → Option (Statement × Text)
  | '[' :: '[' :: rest => do
    let (path, rest) ← path? (skipBlanks rest)
    let rest ← expect? ']' (← expect? ']' rest)
    some (.itemHeader path, ← lineEnd? rest)
  | '[' :: rest => do
    let (path, rest) ← path? (skipBlanks rest)
    let rest ← expect? ']' rest
    some (.header path, ← lineEnd? rest)
  | text => do
    let (path, rest) ← path? text
    let rest ← expect? '=' rest
    let (value, rest) ← value? (skipBlanks rest)
    some (.entry path value, ← lineEnd? rest)

/-- Read all statements of a document. -/
def statementsFrom : (fuel : Nat) → Text → Option (List Statement)
  | 0, _ => none
  | fuel + 1, text => do
    match ← skipTrivia text with
    | [] => some []
    | text =>
      let (statement, rest) ← statement? text
      (statementsFrom fuel rest).map (statement :: ·)

/-- Read all statements of a document, which may begin with a byte order mark. -/
def statements? (text : Text) : Option (List Statement) :=
  let text := match text with
    | '\uFEFF' :: rest => rest
    | text => text
  statementsFrom (text.length + 1) text

/-- Read a document. -/
def document? (text : Text) : Option (List (Text × Value)) := do build? (← statements? text)

end BenchRelay.Toml
