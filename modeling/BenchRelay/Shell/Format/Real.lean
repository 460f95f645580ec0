import BenchRelay.Shell.Number

/-!
# Binary numbers

A binary number is a natural number times a power of two. A format of such numbers says how many
binary digits there are and which powers of two; a decimal number is rounded to the nearest binary
one, and one in the middle to the even neighbour. Written in decimal digits, a binary number is
rounded in the same way from its exact value.
-/

namespace BenchRelay.Shell

/-- A format of binary numbers. -/
structure BinaryFormat where
  /-- How many digits there are at most. -/
  digits : Nat
  /-- The exponent of the last digit is at least this. -/
  least : Int
  /-- Every number is below two to the power of this. -/
  greatest : Int
  /-- How many digits stand in front of the point in hexadecimal form. -/
  leading : Nat

namespace BinaryFormat

/-- Numbers of eight bytes. -/
def double : BinaryFormat := { digits := 53, least := -1074, greatest := 1024, leading := 1 }

/-- Numbers of ten bytes. -/
def extended : BinaryFormat :=
  { digits := 64, least := -16445, greatest := 16384, leading := 4 }

end BinaryFormat

/-- How large a number is, whatever its sign. -/
inductive Magnitude where
  /-- So often a power of two. -/
  | finite (count : Nat) (exponent : Int)
  | infinite
  | notANumber
  deriving Repr, DecidableEq

/-- A number with a sign. -/
structure SignedReal where
  negative : Bool := false
  magnitude : Magnitude
  deriving Repr, DecidableEq

/-- A quotient rounded to the nearest natural number, and one in the middle to the even one. -/
def roundedQuotient (n d : Nat) : Nat :=
  let quotient := n / d
  let rest := n % d
  if 2 * rest > d || (2 * rest == d && quotient % 2 == 1) then quotient + 1 else quotient

/-- A number times a power, and the power that it is to be divided by. -/
def scaled (base n : Nat) (exponent : Int) : Nat × Nat :=
  if 0 ≤ exponent then (n * Nat.pow base exponent.toNat, 1)
  else (n, Nat.pow base (-exponent).toNat)

/-- The nearest binary number to a quotient, and whether it lies where the format has its
numbers. -/
def BinaryFormat.nearest (format : BinaryFormat) (n d : Nat) : Magnitude × Bool :=
  if n = 0 then (.finite 0 0, true)
  else
    let guess : Int := (n.log2 : Int) - d.log2
    let (upper, lower) := scaled 2 d guess
    let place := if upper ≤ n * lower then guess else guess - 1
    let exponent := max (place - format.digits + 1) format.least
    let (m, k) := scaled 2 n (-exponent)
    let count := roundedQuotient m (d * k)
    if format.greatest ≤ (count.log2 : Int) + exponent then (.infinite, false)
    else
      let isExact := count * (d * k) = m
      let isSmall := place - format.digits + 1 < format.least
      (.finite count exponent, isExact || !isSmall)

/-- The number of places that decimal exponents count up to. -/
def placeLimit : Int := 20000

/-- The nearest binary number to a decimal one, and whether it lies where the format has its
numbers. -/
def BinaryFormat.ofDecimal (format : BinaryFormat) (digits : Nat) (exponent : Int) :
    Magnitude × Bool :=
  if digits = 0 then (.finite 0 0, true)
  else
    let size := exponent + (Text.decimal digits).length
    if placeLimit < size then (.infinite, false)
    else if size < -placeLimit then (.finite 0 0, false)
    else
      let (n, d) := scaled 10 digits exponent
      format.nearest n d

/-- The nearest binary number to one of base sixteen. -/
def BinaryFormat.ofHex (format : BinaryFormat) (digits : Nat) (exponent : Int) :
    Magnitude × Bool :=
  if digits = 0 then (.finite 0 0, true)
  else
    let size := exponent + digits.log2
    if placeLimit < size then (.infinite, false)
    else if size < -placeLimit then (.finite 0 0, false)
    else
      let (n, d) := scaled 2 digits exponent
      format.nearest n d

/-- A number at the front of a text. -/
structure RealNumeral where
  value : SignedReal
  /-- The text behind it, or the whole text if there is no number. -/
  rest : Text
  found : Bool := true
  /-- Whether the number lies where the format has its numbers. -/
  inRange : Bool := true

namespace RealNumeral

/-- Read an exponent behind its letter, in front of a text that is left alone if there is none. -/
def exponent (letters : Text) (text : Text) : Int × Text :=
  match text with
  | [] => (0, text)
  | c :: behind =>
    if letters.contains c then
      let (negative, digits) := match behind with
        | '-' :: rest => (true, rest)
        | '+' :: rest => (false, rest)
        | rest => (false, rest)
      let shown := digits.takeWhile Char.isDigit
      if shown.isEmpty then (0, text)
      else
        let n : Int := ofDigits 10 (shown.dropWhile (· == '0') |>.take 9)
        (if negative then -n else n, digits.dropWhile Char.isDigit)
    else (0, text)

/-- Read digits with a point among them: the number without the point, how many digits stand behind
the point, and the text behind. -/
def digits? (base : Nat) (text : Text) : Option (Nat × Nat × Text) :=
  let whole := text.takeWhile (isDigitIn base)
  let behind := text.dropWhile (isDigitIn base)
  match behind with
  | '.' :: rest =>
    let fraction := rest.takeWhile (isDigitIn base)
    if whole.isEmpty && fraction.isEmpty then none
    else some (ofDigits base (whole ++ fraction), fraction.length, rest.dropWhile (isDigitIn base))
  | _ => if whole.isEmpty then none else some (ofDigits base whole, 0, behind)

/-- Drop a word in small or capital letters from the front of a text. -/
def word? (word : String) (text : Text) : Option Text :=
  if (text.take word.length).map Char.toLower = word.toList then some (text.drop word.length)
  else none

/-- The text behind what may follow the word for what is no number. -/
def behindNotANumber (text : Text) : Text :=
  match text with
  | '(' :: rest =>
    match rest.dropWhile fun c => c.isAlphanum || c == '_' with
    | ')' :: rest => rest
    | _ => text
  | _ => text

/-- Read a magnitude: it, the text behind it and whether it is in range. -/
def magnitude? (format : BinaryFormat) (text : Text) : Option (Magnitude × Text × Bool) :=
  let decimal? : Option (Magnitude × Text × Bool) :=
    (digits? 10 text).map fun (n, places, rest) =>
      let (power, rest) := exponent ['e', 'E'] rest
      let (magnitude, inRange) := format.ofDecimal n (power - places)
      (magnitude, rest, inRange)
  let hex? : Option (Magnitude × Text × Bool) :=
    match text with
    | '0' :: x :: rest =>
      if x = 'x' || x = 'X' then
        (digits? 16 rest).map fun (n, places, rest) =>
          let (power, rest) := exponent ['p', 'P'] rest
          let (magnitude, inRange) := format.ofHex n (power - 4 * places)
          (magnitude, rest, inRange)
      else none
    | _ => none
  hex? <|> decimal? <|>
    ((word? "infinity" text <|> word? "inf" text).map fun rest => (.infinite, rest, true)) <|>
    ((word? "nan" text).map fun rest => (.notANumber, behindNotANumber rest, true))

/-- Read a number. -/
def read (format : BinaryFormat) (text : Text) : RealNumeral :=
  let (negative, behind) := match text.dropWhile isSpace with
    | '-' :: rest => (true, rest)
    | '+' :: rest => (false, rest)
    | rest => (false, rest)
  match magnitude? format behind with
  | some (magnitude, rest, inRange) => { value := { negative, magnitude }, rest, inRange }
  | none => { value := { magnitude := .finite 0 0 }, rest := text, found := false }

end RealNumeral

/-- Digits with zeros in front up to a length. -/
def zeroPadded (length : Nat) (digits : Text) : Text :=
  List.replicate (length - digits.length) '0' ++ digits

/-- Digits with a point in front of the last so many, if any; `pointed` says whether the point
stands there in any case. -/
def withPoint (pointed : Bool) (places : Nat) (digits : Text) : Text :=
  let digits := zeroPadded (places + 1) digits
  let whole := digits.take (digits.length - places)
  if places = 0 && !pointed then whole else whole ++ '.' :: digits.drop (digits.length - places)

/-- A binary number with so many decimal places. -/
def fixedText (pointed : Bool) (places count : Nat) (exponent : Int) : Text :=
  let (n, d) := scaled 2 (count * Nat.pow 10 places) exponent
  withPoint pointed places (Text.decimal (roundedQuotient n d))

/-- Whether a binary number is at least a power of ten. -/
def reaches (count : Nat) (exponent power : Int) : Bool :=
  let (n, d) := scaled 2 count exponent
  let (m, k) := scaled 10 1 power
  m * d ≤ n * k

/-- The power of ten at the first digit of a binary number. -/
def decimalExponent (count : Nat) (exponent : Int) : Int :=
  let guess := ((count.log2 : Int) + exponent) * 30103 / 100000
  let guess := if reaches count exponent (guess + 1) then guess + 1 else guess
  let guess := if reaches count exponent (guess + 1) then guess + 1 else guess
  if reaches count exponent guess then guess else guess - 1

/-- The first digits of a binary number, so many behind the first one, and the power of ten at the
first one. -/
def firstDigits (places count : Nat) (exponent : Int) : Text × Int :=
  if count = 0 then (List.replicate (places + 1) '0', 0)
  else
    let power := decimalExponent count exponent
    let (n, d) := scaled 2 count exponent
    let (m, k) := scaled 10 n (places - power)
    let digits := Text.decimal (roundedQuotient m (d * k))
    if digits.length = places + 2 then (digits.take (places + 1), power + 1) else (digits, power)

/-- The text of an exponent, with a sign and so many digits at least. -/
def exponentText (letter : Char) (width : Nat) (exponent : Int) : Text :=
  letter :: (if exponent < 0 then '-' else '+') ::
    zeroPadded width (Text.decimal exponent.natAbs)

/-- A binary number with one digit in front of the point and an exponent. -/
def scientificText (pointed : Bool) (places count : Nat) (exponent : Int) : Text :=
  let (digits, power) := firstDigits places count exponent
  withPoint pointed places digits ++ exponentText 'e' 2 power

/-- A text with a point in it less the zeros at its end, and less the point if it ends so. -/
def withoutZeros (text : Text) : Text :=
  if text.contains '.' then
    match text.reverse.dropWhile (· == '0') with
    | '.' :: rest => rest.reverse
    | rest => rest.reverse
  else text

/-- A binary number with so many digits, in the shorter of both forms. -/
def generalText (pointed : Bool) (digits count : Nat) (exponent : Int) : Text :=
  let digits := max digits 1
  let (shown, power) := firstDigits (digits - 1) count exponent
  let tidy (text : Text) : Text := if pointed then text else withoutZeros text
  if -4 ≤ power && power < digits then
    tidy (fixedText pointed ((digits : Int) - 1 - power).toNat count exponent)
  else tidy (withPoint pointed (digits - 1) shown) ++ exponentText 'e' 2 power

/-- A binary number in base sixteen, with so many digits behind the point or as many as it takes. -/
def BinaryFormat.hexText (format : BinaryFormat) (pointed : Bool) (places? : Option Nat)
    (count : Nat) (exponent : Int) : Text :=
  let length := if count = 0 then 0 else count.log2 + 1
  let shift := min (format.digits - length) (exponent - format.least).toNat
  let behind := format.digits - format.leading
  let (count, exponent) := if count = 0 then (0, -(behind : Int))
    else (count * Nat.pow 2 shift, exponent - shift)
  let full := behind / 4
  let places := places?.getD full
  let count :=
    if places < full then roundedQuotient count (Nat.pow 16 (full - places))
    else count * Nat.pow 16 (places - full)
  let unit := Nat.pow 16 places
  let fraction := zeroPadded places (if places = 0 then [] else Nat.toDigits 16 (count % unit))
  let fraction := if places?.isSome then fraction
    else (fraction.reverse.dropWhile (· == '0')).reverse
  let point := if fraction.isEmpty && !pointed then [] else ['.']
  '0' :: 'x' :: Nat.toDigits 16 (count / unit) ++ point ++ fraction ++
    exponentText 'p' 1 (exponent + behind)

end BenchRelay.Shell
