import BenchRelay.Text.Basic

/-!
# Fields

What a word expands to is a row of pieces. A piece that came from a parameter outside of quotes is
cut into fields at separators, one that lists the positional parameters between them, and any other
not at all. Separators that are blank count only between fields, any other one ends a field. Where
the number of fields is limited, the last one takes all that is left, less the separators at its
end.
-/

namespace BenchRelay.Shell

/-- A character of an expanded word, or the edge of quotes in it. -/
inductive Glyph where
  /-- A character; an escaped one stands for itself in a pattern. -/
  | char (c : Char) (escaped : Bool)
  | mark
  deriving Repr, DecidableEq

/-- Where a piece of an expanded word is cut. -/
inductive Cut where
  | never
  | atSeparators
  /-- Between positional parameters. -/
  | betweenParameters
  deriving Repr, DecidableEq

/-- A piece of an expanded word. -/
structure Piece where
  glyphs : List Glyph
  cut : Cut
  deriving Repr

/-- An expanded word. -/
abbrev Expanded := List Piece

/-- What stands between positional parameters. -/
def parameterEnd : Char := '\x00'

/-- The characters that separate fields where nothing else is said. -/
def defaultSeparators : Text := [' ', '\t', '\n']

/-- A text as glyphs, escaped or not. -/
def glyphs (text : Text) (escaped : Bool) : List Glyph := text.map (Glyph.char · escaped)

/-- The text of glyphs. -/
def textOf (glyphs : List Glyph) : Text :=
  glyphs.filterMap fun
    | .char c _ => some c
    | .mark => none

namespace Expanded

/-- The glyphs of an expanded word. -/
def glyphs (expanded : Expanded) : List Glyph := expanded.flatMap Piece.glyphs

/-- The text of an expanded word. -/
def text (expanded : Expanded) : Text := textOf expanded.glyphs

/-- Whether nothing at all came of a word. -/
def isEmpty (expanded : Expanded) : Bool := expanded.glyphs.isEmpty

end Expanded

/-- Fields that are being built. -/
structure Splitting where
  /-- The fields that are done, the last one first. -/
  done : List (List Glyph) := []
  /-- The field at hand, its last glyph first, and the number of its glyphs. -/
  current : List Glyph := []
  size : Nat := 0
  /-- How many fields may still follow, where that is limited. -/
  left? : Option Nat := none
  /-- Whether a blank separator was met last. -/
  behindBlank : Bool := false
  /-- Whether the last piece was cut between parameters. -/
  afterParameters : Bool := false
  /-- How much of the last field is kept, unless something else follows. -/
  keep? : Option Nat := none

namespace Splitting

/-- Add a glyph to the field at hand. -/
def push (splitting : Splitting) (glyph : Glyph) : Splitting :=
  { splitting with current := glyph :: splitting.current, size := splitting.size + 1 }

/-- End the field at hand. -/
def close (splitting : Splitting) : Splitting :=
  { splitting with
    done := splitting.current.reverse :: splitting.done
    current := []
    size := 0 }

/-- Take a glyph of the last field there may be, which separates or not, as a blank or not. -/
def last (splitting : Splitting) (glyph : Glyph) (separates isBlank : Bool) : Splitting :=
  let keep? :=
    if isBlank then some (splitting.keep?.getD splitting.size)
    else if separates && splitting.behindBlank then splitting.keep?
    else none
  { splitting.push glyph with
    keep?
    behindBlank := isBlank && splitting.behindBlank }

/-- Take a separator in a piece that is cut between parameters, or not. -/
def separator (splitting : Splitting) (betweenParameters : Bool) (glyph : Glyph) (isBlank : Bool) :
    Splitting :=
  let behindBlank :=
    if splitting.afterParameters || betweenParameters then splitting.behindBlank else isBlank
  if splitting.size = 0 && behindBlank then { splitting with behindBlank := false }
  else match splitting.left? with
    | some 1 =>
      { splitting.push glyph with
        left? := some 0
        keep? := some splitting.size
        behindBlank }
    | left? => { splitting.close with left? := left?.map (· - 1), behindBlank }

/-- Take a glyph of a piece that is cut. -/
def take (splitting : Splitting) (separators : Text) (betweenParameters : Bool) (glyph : Glyph) :
    Splitting :=
  let (separates, isBlank) := match glyph with
    | .mark => (false, false)
    | .char c _ =>
      let separates := c == parameterEnd || (!betweenParameters && separators.contains c)
      (separates, separates && (c == parameterEnd || defaultSeparators.contains c))
  if splitting.left? = some 0 then splitting.last glyph separates isBlank
  else if splitting.behindBlank then
    if isBlank then splitting
    else
      let splitting := { splitting with behindBlank := false }
      if separates then splitting else splitting.push glyph
  else if separates then splitting.separator betweenParameters glyph isBlank
  else splitting.push glyph

/-- Take a piece. -/
def piece (separators : Text) (splitting : Splitting) (piece : Piece) : Splitting :=
  match piece.cut with
  | .never => piece.glyphs.foldl push splitting
  | cut =>
    let betweenParameters := cut = .betweenParameters
    let start := { splitting with behindBlank := false }
    { piece.glyphs.foldl (take · separators betweenParameters) start with
      afterParameters := betweenParameters }

/-- All fields. -/
def fields (splitting : Splitting) : List (List Glyph) :=
  let last := splitting.current.reverse
  if splitting.afterParameters then (last :: splitting.done).reverse
  else
    let last := match splitting.keep? with
      | some count => last.take count
      | none => last
    (if last.isEmpty then splitting.done else last :: splitting.done).reverse

end Splitting

/-- Cut an expanded word into fields, so many at most if that is limited. -/
def splitFields (separators : Text) (limit? : Option Nat) (expanded : Expanded) :
    List (List Glyph) :=
  (expanded.foldl (Splitting.piece separators) { left? := limit? }).fields

end BenchRelay.Shell
