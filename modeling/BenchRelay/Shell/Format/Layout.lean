import BenchRelay.Shell.Format.Real

/-!
# Laying out values

How a value is laid out in a format: a sign or another start, digits or a text, and what fills it up
to a width.
-/

namespace BenchRelay.Shell

/-- How a value is laid out. -/
structure Layout where
  left : Bool := false
  zeros : Bool := false
  plus : Bool := false
  space : Bool := false
  alternate : Bool := false
  width : Nat := 0
  precision? : Option Nat := none

namespace Layout

/-- No value is laid out wider than this, nor with more digits. -/
def limit : Nat := 1000000

/-- Take a flag. -/
def flag? (layout : Layout) : Char → Option Layout
  | '-' => some { layout with left := true }
  | '0' => some { layout with zeros := true }
  | '+' => some { layout with plus := true }
  | ' ' => some { layout with space := true }
  | '#' => some { layout with alternate := true }
  | _ => none

/-- Take a width; a negative one puts the value to the left. -/
def withWidth (layout : Layout) (width : Int) : Layout :=
  { layout with
    left := layout.left || width < 0
    width := min width.natAbs limit }

/-- Take a precision; a negative one is none. -/
def withPrecision (layout : Layout) (precision : Int) : Layout :=
  { layout with precision? := if precision < 0 then none else some (min precision.toNat limit) }

/-- Fill a text up to the width. -/
def fill (layout : Layout) (text : Text) : Text :=
  let blanks := List.replicate (layout.width - text.length) ' '
  if layout.left then text ++ blanks else blanks ++ text

/-- Lay out a start and what is behind it, with zeros between them if they are asked for. -/
def behindStart (layout : Layout) (zeros : Bool) (start text : Text) : Text :=
  let missing := layout.width - start.length - text.length
  if zeros && !layout.left then start ++ List.replicate missing '0' ++ text
  else layout.fill (start ++ text)

/-- The start of a number by its sign. -/
def sign (layout : Layout) (negative : Bool) : Text :=
  if negative then ['-'] else if layout.plus then ['+'] else if layout.space then [' '] else []

/-- Lay out digits behind a start, with zeros in front up to the precision. -/
def digits (layout : Layout) (start : Text) (n : Nat) (shown : Text) : Text :=
  match layout.precision? with
  | none => layout.behindStart layout.zeros start shown
  | some precision =>
    let shown := if n = 0 && precision = 0 then [] else shown
    layout.behindStart false start (zeroPadded precision shown)

/-- Lay out an integer with a sign. -/
def integer (layout : Layout) (n : Int) : Text :=
  layout.digits (layout.sign (n < 0)) n.natAbs (Text.decimal n.natAbs)

/-- Lay out a natural number by the letter of its conversion. -/
def natural (layout : Layout) (letter : Char) (n : Nat) : Text :=
  match letter with
  | 'o' =>
    let shown := Nat.toDigits 8 n
    if layout.alternate then
      let shown := if n = 0 then ['0'] else '0' :: shown
      layout.digits [] 1 shown
    else layout.digits [] n shown
  | 'x' =>
    layout.digits (if layout.alternate && n ≠ 0 then ['0', 'x'] else []) n (Nat.toDigits 16 n)
  | 'X' =>
    layout.digits (if layout.alternate && n ≠ 0 then ['0', 'X'] else []) n
      ((Nat.toDigits 16 n).map Char.toUpper)
  | _ => layout.digits [] n (Text.decimal n)

/-- Lay out a binary number by the letter of its conversion, a small one. -/
def magnitude (layout : Layout) (format : BinaryFormat) (letter : Char) (start : Text) :
    Magnitude → Text
  | .infinite => layout.fill (start ++ "inf".toList)
  | .notANumber => layout.fill (start ++ "nan".toList)
  | .finite count exponent =>
    let places := layout.precision?.getD 6
    match letter with
    | 'e' =>
      layout.behindStart layout.zeros start
        (scientificText layout.alternate places count exponent)
    | 'g' =>
      layout.behindStart layout.zeros start (generalText layout.alternate places count exponent)
    | 'a' =>
      let shown := format.hexText layout.alternate layout.precision? count exponent
      layout.behindStart layout.zeros (start ++ shown.take 2) (shown.drop 2)
    | _ => layout.behindStart layout.zeros start (fixedText layout.alternate places count exponent)

/-- Lay out a binary number by the letter of its conversion. -/
def real (layout : Layout) (format : BinaryFormat) (letter : Char) (n : SignedReal) : Text :=
  let text := layout.magnitude format letter.toLower (layout.sign n.negative) n.magnitude
  if letter.isUpper then text.map Char.toUpper else text

/-- Lay out a text, of which only so much as the precision says is shown. -/
def text (layout : Layout) (shown : Text) : Text :=
  match layout.precision? with
  | none => layout.fill shown
  | some precision => layout.fill (shown.take precision)

end Layout

end BenchRelay.Shell
