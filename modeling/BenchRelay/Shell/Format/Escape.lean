import BenchRelay.Shell.Number
import BenchRelay.Shell.Bytes

/-!
# Escapes

What stands behind a backslash in texts that are printed. The shell's own commands, the program that
prints formats and the one that prints its arguments know different escapes.
-/

namespace BenchRelay.Shell

/-- Whose escapes are known. -/
inductive Dialect where
  /-- Those of the shell. -/
  | shell
  /-- Those of the program that prints formats. -/
  | formatter
  /-- Those of the program that prints its arguments. -/
  | printer
  deriving Repr, DecidableEq

/-- What an escape stands for. -/
inductive Escaped where
  /-- A text, in front of what is left. -/
  | text (text rest : Text)
  /-- The end of all output. -/
  | stop
  /-- Nothing, which is an error. -/
  | malformed (reason : Text)

/-- Up to so many digits in a base: their value if there are any, and the text behind. -/
def upTo (base width : Nat) (text : Text) : Option (Nat × Text) :=
  let digits := (text.take width).takeWhile (isDigitIn base)
  if digits.isEmpty then none else some (ofDigits base digits, text.drop digits.length)

/-- The byte that a letter stands for behind a backslash. -/
def letterEscape? (dialect : Dialect) (c : Char) : Option Char :=
  match c with
  | 'a' => some '\x07'
  | 'b' => some '\x08'
  | 'e' => some '\x1b'
  | 'f' => some '\x0c'
  | 'n' => some '\n'
  | 'r' => some '\r'
  | 't' => some '\t'
  | 'v' => some '\x0b'
  | '\\' => some '\\'
  | '"' => if dialect = .formatter then some '"' else none
  | _ => none

/-- The characters that no four or eight digits may stand for. -/
def isForbiddenPoint (n : Nat) : Bool :=
  (n < 160 && n ≠ 36 && n ≠ 64 && n ≠ 96) || (0xd800 ≤ n && n ≤ 0xdfff)

/-- Read the digits of a character. -/
def pointEscape (letter : Char) (width : Nat) (text : Text) : Escaped :=
  let digits := text.take width
  if digits.length = width && digits.all (isDigitIn 16) then
    let n := ofDigits 16 digits
    if isForbiddenPoint n then
      .malformed ("invalid universal character name \\".toList ++ letter ::
        (List.replicate (width - (Nat.toDigits 16 n).length) '0' ++ Nat.toDigits 16 n))
    else .text (ofText [Char.ofNat n]) (text.drop width)
  else .malformed "missing hexadecimal number in escape".toList

/-- Read an escape behind its backslash. In an argument, unlike in a format, octal digits may stand
behind a zero. -/
def escapeAt (dialect : Dialect) (inFormat : Bool) (text : Text) : Escaped :=
  let byte (n : Nat) (rest : Text) : Escaped := .text [Char.ofNat (n % 256)] rest
  match text with
  | [] => .text ['\\'] []
  | c :: rest =>
    let plain : Escaped := .text ['\\', c] rest
    let octal (text : Text) : Escaped :=
      match upTo 8 3 text with
      | some (n, rest) => byte n rest
      | none => plain
    match letterEscape? dialect c with
    | some c => .text [c] rest
    | none =>
      if c = 'c' then if inFormat && dialect = .shell then plain else .stop
      else if c = '0' && !inFormat then
        match upTo 8 3 rest with
        | some (n, rest) => byte n rest
        | none => byte 0 rest
      else if isDigitIn 8 c then octal text
      else if c = 'x' && dialect ≠ .shell then
        match upTo 16 2 rest with
        | some (n, rest) => byte n rest
        | none =>
          if dialect = .formatter then .malformed "missing hexadecimal number in escape".toList
          else plain
      else if c = 'u' && dialect = .formatter then pointEscape 'u' 4 rest
      else if c = 'U' && dialect = .formatter then pointEscape 'U' 8 rest
      else plain

/-- What came of a text with escapes. -/
structure Unescaped where
  text : Text
  /-- Whether an escape ended all output. -/
  stopped : Bool := false
  /-- What was wrong with an escape. -/
  flaw? : Option Text := none

/-- Replace the escapes of a text, behind what it has come to, the last character first. -/
def unescapeFrom (dialect : Dialect) : (fuel : Nat) → (seen text : Text) → Unescaped
  | 0, seen, _ => { text := seen.reverse }
  | _ + 1, seen, [] => { text := seen.reverse }
  | fuel + 1, seen, '\\' :: rest =>
    match escapeAt dialect false rest with
    | .text t rest => unescapeFrom dialect fuel (t.reverse ++ seen) rest
    | .stop => { text := seen.reverse, stopped := true }
    | .malformed reason => { text := seen.reverse, stopped := true, flaw? := some reason }
  | fuel + 1, seen, c :: rest => unescapeFrom dialect fuel (c :: seen) rest

/-- Replace the escapes of a text. -/
def unescape (dialect : Dialect) (text : Text) : Unescaped :=
  unescapeFrom dialect (text.length + 1) [] text

/-- What the shell prints of arguments. -/
def echoText (arguments : List Text) : Text :=
  let (withoutEnd, arguments) := match arguments with
    | ['-', 'n'] :: rest => (true, rest)
    | _ => (false, arguments)
  let shown := unescape .shell (Text.join [' '] arguments)
  if withoutEnd || shown.stopped then shown.text else shown.text ++ ['\n']

/-- Whether an argument is a group of options of the program that prints its arguments. -/
def isEchoOption : Text → Bool
  | '-' :: c :: rest => (c :: rest).all fun c => c == 'n' || c == 'e' || c == 'E'
  | _ => false

/-- What the program that prints its arguments prints. -/
def echoProgramText (arguments : List Text) : Text :=
  let options := (arguments.takeWhile isEchoOption).flatten
  let text := Text.join [' '] (arguments.dropWhile isEchoOption)
  let escapes := (options.filter fun c => c == 'e' || c == 'E').getLast? = some 'e'
  let shown := if escapes then unescape .printer text else { text }
  if shown.stopped || options.contains 'n' then shown.text else shown.text ++ ['\n']

end BenchRelay.Shell
