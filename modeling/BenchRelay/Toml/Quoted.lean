import BenchRelay.Text.Basic

/-!
# Quoted text

A quoted text is basic, with escapes, or literal; either kind may have one line or several. Tabs
stand for themselves, other control characters are refused. In a text of several lines a newline
right behind the opening quotes does not count, and up to two quotes may stand right before the
closing three.
-/

namespace BenchRelay.Toml

/-- Whether a character may stand in a quoted text or a comment: no control character but a tab. -/
def isPrintable (c : Char) : Bool := c == '\t' || (0x20 ≤ c.toNat && c.toNat ≠ 0x7F)

/-- The blanks within a line. -/
def isBlankInLine (c : Char) : Bool := c == ' ' || c == '\t'

/-- The text behind any blanks within a line. -/
def skipBlanks (text : Text) : Text := text.dropWhile isBlankInLine

/-- The text behind a line break, if it begins with one. -/
def lineBreak? : Text → Option Text
  | '\n' :: rest => some rest
  | '\r' :: '\n' :: rest => some rest
  | _ => none

/-- The value of a hexadecimal digit. -/
def hexValue? (c : Char) : Option Nat :=
  if '0' ≤ c && c ≤ '9' then some (c.toNat - '0'.toNat)
  else if 'a' ≤ c && c ≤ 'f' then some (c.toNat - 'a'.toNat + 10)
  else if 'A' ≤ c && c ≤ 'F' then some (c.toNat - 'A'.toNat + 10)
  else none

/-- Read exactly so many hexadecimal digits, behind the value of those already read. -/
def hexCode? (n : Nat) : (width : Nat) → Text → Option (Nat × Text)
  | 0, text => some (n, text)
  | _ + 1, [] => none
  | width + 1, c :: rest => do hexCode? (n * 16 + (← hexValue? c)) width rest

/-- The character with a code point, which is no surrogate. -/
def charOfCode? (code : Nat) : Option Char :=
  if code.isValidChar then some (Char.ofNat code) else none

/-- Read the code point of an escape. -/
def codePoint? (width : Nat) (text : Text) : Option (Char × Text) := do
  let (code, rest) ← hexCode? 0 width text
  some (← charOfCode? code, rest)

/-- Read an escape behind its backslash. -/
def escape? : Text → Option (Char × Text)
  | [] => none
  | c :: rest =>
    match c with
    | 'b' => some ('\x08', rest)
    | 't' => some ('\t', rest)
    | 'n' => some ('\n', rest)
    | 'f' => some ('\x0c', rest)
    | 'r' => some ('\r', rest)
    | 'e' => some ('\x1b', rest)
    | '"' => some ('"', rest)
    | '\\' => some ('\\', rest)
    | 'x' => codePoint? 2 rest
    | 'u' => codePoint? 4 rest
    | 'U' => codePoint? 8 rest
    | _ => none

/-- Read the rest of a basic text of one line behind its opening quote. -/
def basicFrom : (fuel : Nat) → (seen text : Text) → Option (Text × Text)
  | 0, _, _ => none
  | _ + 1, _, [] => none
  | fuel + 1, seen, c :: rest =>
    if c = '"' then some (seen.reverse, rest)
    else if c = '\\' then do
      let (c, rest) ← escape? rest
      basicFrom fuel (c :: seen) rest
    else if isPrintable c then basicFrom fuel (c :: seen) rest
    else none

/-- Read a basic text of one line behind its opening quote. -/
def basic? (text : Text) : Option (Text × Text) := basicFrom (text.length + 1) [] text

/-- Read a literal text of one line behind its opening quote. -/
def literal? (text : Text) : Option (Text × Text) :=
  match text.dropWhile (fun c => isPrintable c && c ≠ '\'') with
  | '\'' :: rest => some (text.takeWhile (fun c => isPrintable c && c ≠ '\''), rest)
  | _ => none

/-- Skip blanks and line breaks. -/
def skipLines : Text → Text
  | '\n' :: rest => skipLines rest
  | '\r' :: '\n' :: rest => skipLines rest
  | c :: rest => if isBlankInLine c then skipLines rest else c :: rest
  | [] => []

/-- Close a text of several lines at a run of quotes, if there are three or more: the quotes that
belong to the text, and the text behind the closing ones. -/
def closeLines? (quoteMark : Char) (text : Text) : Option (Text × Text) :=
  let run := (text.takeWhile (· == quoteMark)).length
  if 3 ≤ run then
    some (List.replicate (min run 5 - 3) quoteMark, text.drop (min run 5))
  else none

/-- Read the rest of a text of several lines; `escapes` says whether it is basic. -/
def linesFrom (quoteMark : Char) (escapes : Bool) :
    (fuel : Nat) → (seen text : Text) → Option (Text × Text)
  | 0, _, _ => none
  | _ + 1, _, [] => none
  | fuel + 1, seen, c :: rest =>
    match closeLines? quoteMark (c :: rest) with
    | some (quotes, rest) => some (seen.reverse ++ quotes, rest)
    | none =>
      if escapes && c == '\\' then
        match lineBreak? (skipBlanks rest) with
        | some rest => linesFrom quoteMark escapes fuel seen (skipLines rest)
        | none =>
          match escape? rest with
          | some (c, rest) => linesFrom quoteMark escapes fuel (c :: seen) rest
          | none => none
      else if c = '\n' || isPrintable c then linesFrom quoteMark escapes fuel (c :: seen) rest
      else
        match c, rest with
        | '\r', '\n' :: rest => linesFrom quoteMark escapes fuel ('\n' :: '\r' :: seen) rest
        | _, _ => none

/-- Read a text of several lines behind its opening quotes. -/
def lines? (quoteMark : Char) (escapes : Bool) (text : Text) : Option (Text × Text) :=
  let text := (lineBreak? text).getD text
  linesFrom quoteMark escapes (text.length + 1) [] text

/-- Read a quoted text. -/
def quoted? : Text → Option (Text × Text)
  | '"' :: '"' :: '"' :: rest => lines? '"' true rest
  | '\'' :: '\'' :: '\'' :: rest => lines? '\'' false rest
  | '"' :: rest => basic? rest
  | '\'' :: rest => literal? rest
  | _ => none

end BenchRelay.Toml
