import BenchRelay.Toml.Quoted
import BenchRelay.Toml.Value

/-!
# Booleans, numbers, dates and times

A scalar without quotes is a run of words with blanks between them, where a word is made of all the
characters that mean nothing else. Each reader here takes the whole run.
-/

namespace BenchRelay.Toml

/-- The value of a digit in any base up to sixteen. -/
def digitValue (c : Char) : Nat :=
  if c.isDigit then c.toNat - '0'.toNat else c.toLower.toNat - 'a'.toNat + 10

/-- The number that digits stand for in a base. -/
def ofDigits (base : Nat) (digits : Text) : Nat :=
  digits.foldl (fun n c => n * base + digitValue c) 0

/-- Digits in groups: at least one digit, and an underscore only between two of them. -/
def digitGroups? (isDigit : Char → Bool) : Text → Option Text
  | [] => none
  | [c] => if isDigit c then some [c] else none
  | c :: '_' :: rest => if isDigit c then (digitGroups? isDigit rest).map (c :: ·) else none
  | c :: rest => if isDigit c then (digitGroups? isDigit rest).map (c :: ·) else none

/-- A sign, if there is one: whether it is a minus, and the text behind it. -/
def sign : Text → Bool × Text
  | '-' :: rest => (true, rest)
  | '+' :: rest => (false, rest)
  | text => (false, text)

/-- Digits before a point or of an integer: no zero in front of other digits. -/
def wholeDigits? (text : Text) : Option Text :=
  match digitGroups? Char.isDigit text with
  | some ('0' :: _ :: _) => none
  | digits => digits

/-- Whether a character is a hexadecimal digit. -/
def isHexDigit (c : Char) : Bool :=
  c.isDigit || ('a' ≤ c && c ≤ 'f') || ('A' ≤ c && c ≤ 'F')

/-- Whether a character is an octal digit. -/
def isOctalDigit (c : Char) : Bool := '0' ≤ c && c ≤ '7'

/-- Whether a character is a binary digit. -/
def isBinaryDigit (c : Char) : Bool := c == '0' || c == '1'

/-- The integer that digits in a base stand for, with an empty one for no digits at all. -/
def based? (base : Nat) (isDigit : Char → Bool) (digits : Text) : Option Value :=
  if digits.isEmpty then some .unreadable
  else (digitGroups? isDigit digits).map fun digits => .integer (ofDigits base digits)

/-- Whether groups of characters begin with a digit of some base each, and end with one too but for
the last. -/
def looksGrouped : List Text → Bool
  | [] => true
  | [group] => group.head?.any isHexDigit
  | group :: groups =>
    group.head?.any isHexDigit && group.getLast?.any isHexDigit && looksGrouped groups

/-- Whether a character makes a number something else than an integer. -/
def endsInteger (c : Char) : Bool := c == '.' || c == 'e' || c == 'E' || c == ' '

/-- Whether digits without a sign look like an integer in groups. The characters within the groups
behind the first are left for whoever asks for its value. -/
def isGroupedInteger (text : Text) : Bool :=
  let rest := text.dropWhile Char.isDigit
  match text.head?, rest.splitOn '_' with
  | some first, [] :: groups =>
    first.isDigit && first ≠ '0' && !groups.isEmpty && !rest.any endsInteger && looksGrouped groups
  | _, _ => false

/-- An integer: in base ten with an optional sign, or in base 16, 8 or 2 without. -/
def integer? : Text → Option Value
  | '0' :: 'x' :: rest => based? 16 isHexDigit rest
  | '0' :: 'o' :: rest => based? 8 isOctalDigit rest
  | '0' :: 'b' :: rest => based? 2 isBinaryDigit rest
  | text =>
    let (negative, rest) := sign text
    match wholeDigits? rest with
    | some digits =>
      some (.integer (if negative then -(ofDigits 10 digits : Int) else ofDigits 10 digits))
    | none => if isGroupedInteger rest then some .unreadable else none

/-- The least number that rounds out of the range of doubles. -/
def doubleOverflow : Nat := Nat.pow 2 1024 - Nat.pow 2 970

/-- Whether digits times a power of ten are in the range of doubles. Far from the border the number
of digits decides. -/
def decimalInRange (digits : Text) (exponent : Int) : Bool :=
  let n := ofDigits 10 digits
  let magnitude := exponent + (Text.decimal n).length
  if n == 0 || magnitude < 300 then true
  else if magnitude > 320 then false
  else match exponent with
    | .ofNat power => n * Nat.pow 10 power < doubleOverflow
    | .negSucc power => n < doubleOverflow * Nat.pow 10 (power + 1)

/-- The digits behind the point, if there is one. -/
def fractionDigits? : Text → Option Text
  | [] => some []
  | '.' :: rest => digitGroups? Char.isDigit rest
  | _ :: _ => none

/-- The exponent behind its letter, if there is one. -/
def exponent? : Text → Option Int
  | [] => some 0
  | _ :: rest =>
    let (negative, rest) := sign rest
    (digitGroups? Char.isDigit rest).map fun digits =>
      if negative then -(ofDigits 10 digits : Int) else ofDigits 10 digits

/-- Whether a character begins an exponent. -/
def isExponentMark (c : Char) : Bool := c == 'e' || c == 'E'

/-- A number with a point or an exponent, an infinity, or no number: whether it is in range. -/
def float? (text : Text) : Option Bool :=
  let (_, text) := sign text
  if text = "inf".toList || text = "nan".toList then some true
  else do
    let whole ← wholeDigits? (text.takeWhile fun c => !(isExponentMark c || c == '.'))
    let rest := text.dropWhile fun c => !(isExponentMark c || c == '.')
    let fraction ← fractionDigits? (rest.takeWhile (!isExponentMark ·))
    let exponent ← exponent? (rest.dropWhile (!isExponentMark ·))
    if rest.isEmpty then none
    else some (decimalInRange (whole ++ fraction) (exponent - fraction.length))

/-- A number of exactly so many digits, and the text behind it. -/
def fixed? : (width : Nat) → Text → Option (Nat × Text) := fun width text =>
  let digits := text.take width
  if digits.length = width && digits.all Char.isDigit then
    some (ofDigits 10 digits, text.drop width)
  else none

/-- A given character, and the text behind it. -/
def expect? (c : Char) : Text → Option Text
  | [] => none
  | a :: rest => if a = c then some rest else none

/-- How many days a month has. -/
def daysIn (year month : Nat) : Nat :=
  if month = 2 then
    if year % 4 = 0 && (year % 100 ≠ 0 || year % 400 = 0) then 29 else 28
  else if month = 4 || month = 6 || month = 9 || month = 11 then 30
  else 31

/-- A date at the front: its text, and the text behind it. -/
def date? (text : Text) : Option (Text × Text) := do
  let (year, rest) ← fixed? 4 text
  let (month, rest) ← fixed? 2 (← expect? '-' rest)
  let (day, rest) ← fixed? 2 (← expect? '-' rest)
  if 1 ≤ month && month ≤ 12 && 1 ≤ day && day ≤ daysIn year month then
    some (text.take 10, rest)
  else none

/-- The fraction of a second at the front, with nine digits at most and no zeros at its end, or
nothing if it has zeros alone. -/
def secondFraction? : Text → Option (Text × Text)
  | '.' :: rest =>
    let digits := rest.takeWhile Char.isDigit
    if digits.isEmpty then none
    else
      let kept := ((digits.take 9).reverse.dropWhile (· == '0')).reverse
      some (if kept.isEmpty then [] else '.' :: kept, rest.dropWhile Char.isDigit)
  | text => some ([], text)

/-- The seconds of a time at the front, or zero where there are none. -/
def seconds? : Text → Option (Text × Text)
  | ':' :: text => do
    let (second, rest) ← fixed? 2 text
    if second ≤ 60 then
      let (fraction, rest) ← secondFraction? rest
      some (':' :: text.take 2 ++ fraction, rest)
    else none
  | text => some (":00", text)

/-- A time at the front: its text, and the text behind it. -/
def time? (text : Text) : Option (Text × Text) := do
  let (hour, rest) ← fixed? 2 text
  let (minute, rest) ← fixed? 2 (← expect? ':' rest)
  if hour ≤ 23 && minute ≤ 59 then
    let (seconds, rest) ← seconds? rest
    some (text.take 5 ++ seconds, rest)
  else none

/-- The offset from universal time that ends a text, if there is one. No offset at all is written
with a plus. -/
def offset? : Text → Option Text
  | [] => some []
  | c :: text =>
    if c = 'Z' || c = 'z' then if text.isEmpty then some ['Z'] else none
    else if c = '+' || c = '-' then do
      let (hours, rest) ← fixed? 2 text
      let (minutes, rest) ← fixed? 2 (← expect? ':' rest)
      if rest.isEmpty && hours ≤ 23 && minutes ≤ 59 then
        some ((if hours = 0 && minutes = 0 then '+' else c) :: text)
      else none
    else none

/-- Whether a character stands between a date and its time. -/
def isDateTimeSeparator (c : Char) : Bool := c == 'T' || c == 't' || c == ' '

/-- A date, a time, or both: its standard form. -/
def dateTime? (text : Text) : Option Text :=
  match date? text with
  | some (date, []) => some date
  | some (date, c :: rest) =>
    if isDateTimeSeparator c then do
      let (time, rest) ← time? rest
      some (date ++ 'T' :: time ++ (← offset? rest))
    else none
  | none =>
    match time? text with
    | some (time, []) => some time
    | _ => none

/-- A truth value. -/
def boolean? (text : Text) : Option Bool :=
  if text = "true".toList then some true
  else if text = "false".toList then some false
  else none

/-- The value of a scalar without quotes. -/
def scalar? (text : Text) : Option Value :=
  (boolean? text).map .boolean <|> (dateTime? text).map .dateTime <|>
    integer? text <|> (float? text).map .float

/-- Whether a character may be part of a word of a scalar without quotes. -/
def isScalarChar (c : Char) : Bool := !("=,[]\x7b\x7d \t#\r\n'\"".toList.contains c)

/-- The words that make a scalar without quotes, with the blanks between them, and the text
behind them. -/
def scalarRun : Text → Text × Text
  | [] => ([], [])
  | c :: rest =>
    let goesOn :=
      if isBlankInLine c then (rest.dropWhile isBlankInLine).head?.any isScalarChar
      else isScalarChar c
    if goesOn then
      let (run, behind) := scalarRun rest
      (c :: run, behind)
    else ([], c :: rest)

/-- Read a scalar without quotes. -/
def readScalar (text : Text) : Option (Value × Text) :=
  let (run, rest) := scalarRun text
  (scalar? run).map (·, rest)

end BenchRelay.Toml
