import BenchRelay.Text.Basic
import BenchRelay.Text.CodePoints

/-!
# Patterns

A pattern says which texts a value may be. It is a tree of characters, sets of characters, edges
between characters, groups, repetitions and choices. Flags change what the parts behind them mean,
up to the end of the group that they stand in.

A pattern has to keep to whole characters, and what depends on data about all scripts is not to be
had: letter case is ignored in patterns on bytes alone, and so are the short names of sets and the
edges of words.
-/

namespace BenchRelay

/-- What two sets of characters are combined to. -/
inductive SetOperator where
  | intersection
  | difference
  /-- What is in one of them alone. -/
  | symmetricDifference
  deriving Repr, DecidableEq

/-- A set of characters, as a pattern writes it. -/
inductive CharSet where
  | char (c : Char)
  | range (first last : Char)
  /-- A set of ASCII characters by its full name, or all other characters. -/
  | named (negated : Bool) (members : CodePoints)
  /-- A set by its short name of one letter, or all other characters. -/
  | short (negated : Bool)
  /-- A set in brackets of its own. -/
  | nested (negated : Bool) (set : CharSet)
  | union (members : List CharSet)
  | combined (operator : SetOperator) (left right : CharSet)
  deriving Repr

/-- Flags that are set or cleared, by their letters. -/
abbrev FlagChange := List (Char × Bool)

/-- A pattern. -/
inductive Pattern where
  | empty
  /-- Flags for what is behind them. -/
  | flags (change : FlagChange)
  /-- A character; `byte` says that it is written as two digits, which may also mean a byte. -/
  | literal (c : Char) (byte : Bool)
  /-- Any character within a line. -/
  | any
  /-- An edge of the text or a line, or else of a word. -/
  | edge (ofWord : Bool)
  /-- A set by its short name, or all other characters. -/
  | short (negated : Bool)
  | oneOf (negated : Bool) (set : CharSet)
  | repeated (body : Pattern)
  /-- A group with flags of its own. -/
  | group (change : FlagChange) (body : Pattern)
  | sequence (items : List Pattern)
  | choice (branches : List Pattern)
  deriving Repr

/-- The union of sets. -/
def CharSet.ofMembers : List CharSet → CharSet
  | [member] => member
  | members => .union members

namespace Pattern

/-- Patterns one after another. -/
def ofItems : List Pattern → Pattern
  | [] => .empty
  | [item] => item
  | items => .sequence items

/-- A choice between patterns. -/
def ofBranches : List Pattern → Pattern
  | [] => .empty
  | [branch] => branch
  | branches => .choice branches

end Pattern

mutual

/-- How deep the parts of a set are nested. -/
def CharSet.depth : CharSet → Nat
  | .char _ | .range _ _ | .named _ _ | .short _ => 0
  | .nested _ set => set.depth + 1
  | .union members => depthOfAll members + 1
  | .combined _ left right => max left.depth right.depth + 1

/-- How deep the parts of sets are nested. -/
def CharSet.depthOfAll : List CharSet → Nat
  | [] => 0
  | set :: sets => max set.depth (depthOfAll sets)

end

mutual

/-- How deep the parts of a pattern are nested. -/
def Pattern.depth : Pattern → Nat
  | .empty | .flags _ | .literal _ _ | .any | .edge _ | .short _ => 0
  | .oneOf _ set => set.depth + 1
  | .repeated body => body.depth + 1
  | .group _ body => body.depth + 1
  | .sequence items => depthOfAll items + 1
  | .choice branches => depthOfAll branches + 1

/-- How deep the parts of patterns are nested. -/
def Pattern.depthOfAll : List Pattern → Nat
  | [] => 0
  | pattern :: patterns => max pattern.depth (depthOfAll patterns)

end

end BenchRelay
