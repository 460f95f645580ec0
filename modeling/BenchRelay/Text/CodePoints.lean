/-!
# Sets of code points

A set of code points is a list of ranges, ascending and apart, each with its first and its last
member.
-/

namespace BenchRelay

/-- A set of code points. -/
abbrev CodePoints := List (Nat × Nat)

namespace CodePoints

/-- Whether a code point is in a set. -/
def contains (set : CodePoints) (code : Nat) : Bool :=
  set.any fun range => range.1 ≤ code && code ≤ range.2

/-- Whether no range is empty and each begins behind the one before it, and not right behind it. -/
def isOrdered : CodePoints → Bool
  | [] => true
  | [range] => range.1 ≤ range.2
  | first :: second :: rest =>
    first.1 ≤ first.2 && first.2 + 1 < second.1 && isOrdered (second :: rest)

end CodePoints

end BenchRelay
