import BenchRelay.Pattern.Reader

/-!
# Patterns that can be had

A pattern that can be read has a meaning only if its flags allow each of its parts, and if it is not
nested too deep.
-/

namespace BenchRelay

/-- The flags that decide what may stand in a pattern. -/
structure PatternFlags where
  ignoreCase : Bool := false
  /-- Whether the pattern is one on characters, and not on bytes. -/
  unicode : Bool := true
  deriving Repr, DecidableEq

/-- Take in a change of flags. -/
def PatternFlags.apply (flags : PatternFlags) (change : FlagChange) : PatternFlags where
  ignoreCase := (change.lookup 'i').getD flags.ignoreCase
  unicode := (change.lookup 'u').getD flags.unicode

namespace CodePoints

/-- A range less another. -/
def rangeWithout (range cut : Nat × Nat) : CodePoints :=
  if cut.2 < range.1 || range.2 < cut.1 then [range]
  else
    (if range.1 < cut.1 then [(range.1, cut.1 - 1)] else []) ++
      (if cut.2 < range.2 then [(cut.2 + 1, range.2)] else [])

/-- What is in one set and not in another. -/
def without (left right : CodePoints) : CodePoints :=
  right.foldl (fun left cut => left.flatMap (rangeWithout · cut)) left

/-- All code points of characters. -/
def characters : CodePoints := [(0x0000, 0xD7FF), (0xE000, 0x10FFFF)]

/-- All characters that are not in a set. -/
def complement (set : CodePoints) : CodePoints := characters.without set

end CodePoints

/-- Combine two sets. -/
def SetOperator.apply (left right : CodePoints) : SetOperator → CodePoints
  | .intersection => left.without right.complement
  | .difference => left.without right
  | .symmetricDifference => left.without right ++ right.without left

namespace CharSet

/-- A set, unless case is to be ignored in it and it has members. -/
def folded? (ignoreCase : Bool) (set : CodePoints) : Option CodePoints :=
  if ignoreCase && !set.isEmpty then none else some set

/-- A set or all other characters. -/
def finished? (ignoreCase negated : Bool) (set : CodePoints) : Option CodePoints :=
  (folded? ignoreCase set).map fun set => if negated then set.complement else set

mutual

/-- The members of a set in a pattern on characters, if they can be had. -/
def members? (ignoreCase : Bool) : CharSet → Option CodePoints
  | .char c => some [(c.toNat, c.toNat)]
  | .range first last => some [(first.toNat, last.toNat)]
  | .named negated members => finished? ignoreCase negated members
  | .short _ => none
  | .nested negated set => (members? ignoreCase set).bind (finished? ignoreCase negated)
  | .union members => membersOfAll? ignoreCase members
  | .combined operator left right => do
    let left ← folded? ignoreCase (← members? ignoreCase left)
    let right ← folded? ignoreCase (← members? ignoreCase right)
    some (operator.apply left right)

/-- The members of sets in a pattern on characters, if they can be had. -/
def membersOfAll? (ignoreCase : Bool) : List CharSet → Option CodePoints
  | [] => some []
  | set :: sets => do some ((← members? ignoreCase set) ++ (← membersOfAll? ignoreCase sets))

end

mutual

/-- Whether a set has ASCII characters alone, as one in a pattern on bytes must. -/
def isAscii : CharSet → Bool
  | .char c => c.toNat < 0x80
  | .range first last => first.toNat < 0x80 && last.toNat < 0x80
  | .named negated _ => !negated
  | .short negated => !negated
  | .nested negated set => !negated && set.isAscii
  | .union members => allAscii members
  | .combined _ left right => left.isAscii && right.isAscii

/-- Whether all of some sets have ASCII characters alone. -/
def allAscii : List CharSet → Bool
  | [] => true
  | set :: sets => set.isAscii && allAscii sets

end

/-- Whether flags allow a set, or all other characters. -/
def allowed (flags : PatternFlags) (negated : Bool) (set : CharSet) : Bool :=
  if flags.unicode then
    ((set.members? flags.ignoreCase).bind (finished? flags.ignoreCase negated)).isSome
  else !negated && set.isAscii

end CharSet

namespace Pattern

mutual

/-- The flags behind a pattern, provided that those in front of it allow it. -/
def flagsBehind? (flags : PatternFlags) : Pattern → Option PatternFlags
  | .empty => some flags
  | .flags change => some (flags.apply change)
  | .literal c byte =>
    let allowed := if flags.unicode then !flags.ignoreCase else !byte || c.toNat < 0x80
    if allowed then some flags else none
  | .any => if flags.unicode then some flags else none
  | .edge ofWord => if ofWord && flags.unicode then none else some flags
  | .short negated => if flags.unicode || negated then none else some flags
  | .oneOf negated set => if set.allowed flags negated then some flags else none
  | .repeated body => flagsBehind? flags body
  | .group change body => (flagsBehind? (flags.apply change) body).map fun _ => flags
  | .sequence items => flagsBehindAll? flags items
  | .choice branches => flagsBehindAll? flags branches

/-- The flags behind patterns in their order. -/
def flagsBehindAll? (flags : PatternFlags) : List Pattern → Option PatternFlags
  | [] => some flags
  | pattern :: patterns => do flagsBehindAll? (← flagsBehind? flags pattern) patterns

end

/-- How deep the parts of a pattern may be nested. -/
def depthLimit : Nat := 250

/-- Whether a text is a pattern that can be had. -/
def isSound (text : Text) : Bool :=
  match read text with
  | some pattern => pattern.depth ≤ depthLimit && (flagsBehind? {} pattern).isSome
  | none => false

end Pattern

end BenchRelay
