import BenchRelay.Text.Basic

/-!
# TOML values

A value keeps what its text says. An integer may be as great as its digits make it, or look like one
and have no digits that can be read, and a decimal is known by no more than whether it is in range.
Whoever asks for a value of the table judges whether it can be read. A table keeps its keys in the
order in which they first appear.
-/

namespace BenchRelay.Toml

/-- A TOML value. -/
inductive Value where
  | string (text : Text)
  | integer (n : Int)
  /-- What looks like an integer, but has no digits or other characters between them. -/
  | unreadable
  /-- A number with a point or an exponent, an infinity, or no number at all; `finite` is false if
  its digits are out of the range of doubles. -/
  | float (finite : Bool)
  | boolean (b : Bool)
  /-- A date, a time, or both, in its standard form. -/
  | dateTime (text : Text)
  | array (items : List Value)
  | table (entries : List (Text × Value))
  deriving Repr

namespace Value

/-- Whether an integer is in the range that is read at all: 128 bits, with a sign or without. -/
def integerInRange (n : Int) : Bool :=
  -Int.ofNat (Nat.pow 2 127) ≤ n && n < Int.ofNat (Nat.pow 2 128)

mutual

/-- Whether all numbers in a value can be read and are in range. -/
def inRange : Value → Bool
  | .integer n => integerInRange n
  | .unreadable => false
  | .float finite => finite
  | .array items => allInRange items
  | .table entries => entriesInRange entries
  | .string _ | .boolean _ | .dateTime _ => true

/-- Whether all numbers in a list of values are in range. -/
def allInRange : List Value → Bool
  | [] => true
  | item :: items => item.inRange && allInRange items

/-- Whether all numbers in the values of a table are in range. -/
def entriesInRange : List (Text × Value) → Bool
  | [] => true
  | (_, value) :: entries => value.inRange && entriesInRange entries

end

end Value

end BenchRelay.Toml
