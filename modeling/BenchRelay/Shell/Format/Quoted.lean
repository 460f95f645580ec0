import BenchRelay.Shell.Bytes

/-!
# Quoted arguments

A text as a script may say it, where bytes that cannot be printed are escaped. A text that means
nothing but itself is left as it is; quotes of either kind stand around any other one.
-/

namespace BenchRelay.Shell

/-- Whether a character means more than itself in a script, by the characters around it. -/
def isSpecialIn (isFirst isAlone : Bool) (c : Char) : Bool :=
  " !\"$&()*;<=>[^`|?\\'".toList.contains c || (isFirst && (c = '#' || c = '~')) ||
    (isAlone && (c = '\x7b' || c = '\x7d'))

/-- Whether a character can be printed. -/
def isPrintable (c : Char) : Bool := ' ' ≤ c && c ≤ '~'

/-- Whether a character stands for itself in double quotes too, by whether it is the first one. -/
def isSafeInDouble (isFirst : Bool) (c : Char) : Bool :=
  isPrintable c && !"!\"$&()*;<=>[^`|?\\\x7b\x7d".toList.contains c &&
    (isFirst || (c ≠ '#' && c ≠ '~'))

/-- What stands behind the backslash for a byte that cannot be printed. -/
def byteEscape (c : Char) : Text :=
  match c with
  | '\x07' => ['a']
  | '\x08' => ['b']
  | '\x0c' => ['f']
  | '\n' => ['n']
  | '\r' => ['r']
  | '\t' => ['t']
  | '\x0b' => ['v']
  | c =>
    let digit (n : Nat) : Char := Char.ofNat ('0'.toNat + n % 8)
    [digit (c.toNat / 64), digit (c.toNat / 8), digit c.toNat]

/-- The characters of a text between single quotes; `escaping` says whether quotes for escapes are
open. -/
def quotedBody (escaping : Bool) : Text → Text
  | [] => []
  | c :: rest =>
    if c = '\'' then '\'' :: '\\' :: '\'' :: '\'' :: quotedBody false rest
    else if isPrintable c then
      (if escaping then ['\'', '\''] else []) ++ c :: quotedBody false rest
    else
      (if escaping then [] else ['\'', '$', '\'']) ++ '\\' :: byteEscape c ++ quotedBody true rest

/-- Whether all characters of a text are of a kind that depends on which one is the first. -/
def allByPlace (isOf : Bool → Char → Bool) : Text → Bool
  | [] => true
  | c :: rest => isOf true c && rest.all (isOf false)

/-- A text as a script may say it. -/
def shellQuoted (text : Text) : Text :=
  let isAlone : Bool := text.length = 1
  let isPlain (isFirst : Bool) (c : Char) : Bool :=
    isPrintable c && !isSpecialIn isFirst isAlone c
  if !text.isEmpty && allByPlace isPlain text then text
  else if text.contains '\'' && allByPlace isSafeInDouble text then '"' :: text ++ ['"']
  else '\'' :: quotedBody false text ++ ['\'']

/-- A text between quotes in a message, in which nothing is left that cannot be seen. -/
def visiblyQuoted (text : Text) : Text :=
  '\'' :: (text.flatMap fun c =>
    if c = '\\' || c = '\'' then ['\\', c]
    else if isPrintable c then [c]
    else '\\' :: byteEscape c) ++ ['\'']

end BenchRelay.Shell
