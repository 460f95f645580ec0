import BenchRelay.Text.Basic

/-!
# Blank text

Blank characters are those with the Unicode property White_Space, 25 of them. A text is blank when
every one of its characters is, the empty text included.
-/

namespace BenchRelay

/-- The code points with the Unicode property White_Space. -/
def whiteSpace : List Nat :=
  [0x09, 0x0A, 0x0B, 0x0C, 0x0D, 0x20, 0x85, 0xA0, 0x1680,
    0x2000, 0x2001, 0x2002, 0x2003, 0x2004, 0x2005, 0x2006, 0x2007, 0x2008, 0x2009, 0x200A,
    0x2028, 0x2029, 0x202F, 0x205F, 0x3000]

/-- Whether a character has the property White_Space. -/
def isBlankChar (c : Char) : Bool := whiteSpace.contains c.toNat

/-- Whether a text has no character outside White_Space. -/
def Text.isBlank (text : Text) : Bool := text.all isBlankChar

/-- Every character of the ASCII class of spaces is blank. -/
theorem isBlankChar_of_isWhitespace {c : Char} (h : c.isWhitespace) : isBlankChar c := by
  simp only [Char.isWhitespace, Bool.or_eq_true, decide_eq_true_eq] at h
  rcases h with ((rfl | rfl) | rfl) | rfl <;> decide

example : whiteSpace.length = 25 ∧ whiteSpace.Pairwise (· < ·) := by decide

end BenchRelay
