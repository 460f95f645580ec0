import BenchRelay.Text.Basic

/-!
# JSON values

Values keep what their text says: the members of an object in their order, repeated names included,
and the digits of a number. A number is read as a double in two steps that each round: its leading
digits, as many as fit into 64 bits, and the power of ten they are multiplied with. It is finite if
the product stays in the range of doubles.
-/

namespace BenchRelay

/-- The digits of a number as they are written. -/
structure Numeral where
  negative : Bool
  /-- The digits before the point. -/
  whole : List Nat
  /-- The digits after the point. -/
  fraction : List Nat
  /-- The exponent. -/
  exponent : Int
  deriving Repr, DecidableEq

/-- A JSON value. -/
inductive Json where
  | null
  | bool (b : Bool)
  | number (numeral : Numeral)
  | string (text : Text)
  | array (items : List Json)
  | object (members : List (Text × Json))
  deriving Repr

namespace Numeral

/-- The greatest number that a significand may be. -/
def significandLimit : Nat := Nat.pow 2 64 - 1

/-- Append digits to a significand as long as it stays in its limit; the digits left over. -/
def takeDigits (significand : Nat) : List Nat → Nat × List Nat
  | [] => (significand, [])
  | digit :: digits =>
    if significand * 10 + digit ≤ significandLimit then
      takeDigits (significand * 10 + digit) digits
    else (significand, digit :: digits)

/-- The significand and the power of ten that a numeral is read as. -/
def scaled (numeral : Numeral) : Nat × Int :=
  let (significand, dropped) := takeDigits 0 numeral.whole
  let (significand, unused) := takeDigits significand numeral.fraction
  (significand,
    numeral.exponent + dropped.length - (numeral.fraction.length - unused.length : Nat))

/-- Round a number to 53 binary digits, a half to the even neighbour. -/
def roundDouble (n : Nat) : Nat :=
  let excess := n.log2 + 1 - 53
  let unit := Nat.pow 2 excess
  let quotient := n / unit
  let rest := n % unit
  if 2 * rest > unit || (2 * rest == unit && quotient % 2 == 1) then (quotient + 1) * unit
  else quotient * unit

/-- The least number that rounds out of the range of doubles. -/
def overflow : Nat := Nat.pow 2 1024 - Nat.pow 2 970

/-- The greatest power of ten among the doubles. -/
def greatestPower : Nat := 308

/-- Whether a numeral is read as a finite double. -/
def isFinite (numeral : Numeral) : Bool :=
  let (significand, exponent) := numeral.scaled
  significand == 0 ||
    match exponent with
    | .negSucc _ => true
    | .ofNat power =>
      power ≤ greatestPower && roundDouble significand * roundDouble (Nat.pow 10 power) < overflow

end Numeral

end BenchRelay
