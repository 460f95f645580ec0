import BenchRelay.Shell.Bytes

/-!
# Integers in text

An integer may have blanks and a sign in front. Where its base is left open, digits behind `0x` have
base 16, those behind `0` base 8 and all others base 10. Reading goes as far as there are digits;
who reads judges what is left, and whether the integer is in range.
-/

namespace BenchRelay.Shell

/-- The value of a digit in any base up to sixteen. -/
def digitOf (c : Char) : Nat :=
  if c.isDigit then c.toNat - '0'.toNat else c.toLower.toNat - 'a'.toNat + 10

/-- Whether a character is a digit in a base. -/
def isDigitIn (base : Nat) (c : Char) : Bool :=
  (c.isDigit || ('a' ≤ c.toLower && c.toLower ≤ 'f')) && digitOf c < base

/-- The number that digits stand for in a base. -/
def ofDigits (base : Nat) (digits : Text) : Nat :=
  digits.foldl (fun n c => n * base + digitOf c) 0

/-- An integer at the front of a text. -/
structure Numeral where
  value : Int
  /-- The text behind its digits, or the whole text if there are none. -/
  rest : Text
  /-- Whether there are digits at all. -/
  found : Bool

namespace Numeral

/-- Read digits in a base. -/
def digits? (base : Nat) (text : Text) : Option (Nat × Text) :=
  let digits := text.takeWhile (isDigitIn base)
  if digits.isEmpty then none
  else some (ofDigits base digits, text.dropWhile (isDigitIn base))

/-- Read digits of which the base is left open. -/
def anyDigits? (text : Text) : Option (Nat × Text) :=
  match text with
  | '0' :: x :: rest =>
    match if x = 'x' || x = 'X' then digits? 16 rest else none with
    | some read => some read
    | none => digits? 8 text
  | _ => digits? 10 text

/-- Read an integer by a reader of its digits. -/
def readBy (digits? : Text → Option (Nat × Text)) (text : Text) : Numeral :=
  let (negative, behind) := match text.dropWhile isSpace with
    | '-' :: rest => (true, rest)
    | '+' :: rest => (false, rest)
    | rest => (false, rest)
  match digits? behind with
  | some (n, rest) => { value := if negative then -(n : Int) else n, rest, found := true }
  | none => { value := 0, rest := text, found := false }

/-- Read an integer in base ten. -/
def readDecimal (text : Text) : Numeral := readBy (digits? 10) text

/-- Read an integer in any base. -/
def read (text : Text) : Numeral := readBy anyDigits? text

/-- Whether there is nothing but blanks behind an integer. -/
def isWhole (numeral : Numeral) : Bool := (numeral.rest.dropWhile isSpace).isEmpty

end Numeral

/-- The least integer of 64 bits with a sign. -/
def leastInteger : Int := -(Int.ofNat (Nat.pow 2 63))

/-- The greatest integer of 64 bits with a sign. -/
def greatestInteger : Int := Int.ofNat (Nat.pow 2 63) - 1

/-- An integer between two limits, or the limit that it goes beyond. -/
def clamp (least greatest n : Int) : Int :=
  if n < least then least else if greatest < n then greatest else n

/-- Whether an integer has 64 bits with a sign. -/
def isInteger64 (n : Int) : Bool := leastInteger ≤ n && n ≤ greatestInteger

/-- The integer of 64 bits that a text as a whole stands for in base ten. -/
def decimalInteger? (text : Text) : Option Int :=
  let numeral := Numeral.readDecimal text
  if numeral.found && numeral.isWhole && isInteger64 numeral.value then some numeral.value else none

/-- The greatest number that a command takes as a count or an exit code. -/
def countLimit : Int := Int.ofNat (Nat.pow 2 31) - 1

/-- The count that a text stands for. -/
def count? (text : Text) : Option Nat :=
  match decimalInteger? text with
  | some n => if 0 ≤ n && n ≤ countLimit then some n.toNat else none
  | none => none

end BenchRelay.Shell
