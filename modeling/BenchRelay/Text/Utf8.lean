import BenchRelay.Text.Basic

/-!
# Reading UTF-8

Well-formed sequences are those of Unicode Table 3-7: no overlong form, no surrogate, nothing above
U+10FFFF. `front` reads what stands at the front of a byte stream: a character, an ill-formed
sequence as long as it can be, or a sequence that the end of the stream cuts short. The lossy
reading gives one U+FFFD for each of the last two; the strict reading accepts characters alone.
-/

namespace BenchRelay.Utf8

/-- The character that stands for bytes that are no character. -/
def replacement : Char := '\uFFFD'

/-- The least and the greatest byte allowed at one position of a sequence. -/
structure ByteRange where
  low : Nat
  high : Nat
  deriving Repr, DecidableEq

/-- Whether a byte lies in a range. -/
def ByteRange.has (range : ByteRange) (b : UInt8) : Bool :=
  range.low ≤ b.toNat && b.toNat ≤ range.high

/-- The bytes that continue a sequence. -/
def ByteRange.continuation : ByteRange := ⟨0x80, 0xBF⟩

/-- What the first byte of a sequence says: the bits of the code point it carries and the ranges of
the bytes that have to follow. -/
structure Lead where
  bits : Nat
  expected : List ByteRange
  deriving Repr, DecidableEq

/-- Read the first byte of a sequence by Table 3-7. -/
def Lead.ofByte? (b : UInt8) : Option Lead :=
  let n := b.toNat
  if n < 0x80 then some ⟨n, []⟩
  else if n < 0xC2 then none
  else if n < 0xE0 then some ⟨n - 0xC0, [.continuation]⟩
  else if n = 0xE0 then some ⟨0, [⟨0xA0, 0xBF⟩, .continuation]⟩
  else if n = 0xED then some ⟨13, [⟨0x80, 0x9F⟩, .continuation]⟩
  else if n < 0xF0 then some ⟨n - 0xE0, [.continuation, .continuation]⟩
  else if n = 0xF0 then some ⟨0, [⟨0x90, 0xBF⟩, .continuation, .continuation]⟩
  else if n < 0xF4 then some ⟨n - 0xF0, [.continuation, .continuation, .continuation]⟩
  else if n = 0xF4 then some ⟨4, [⟨0x80, 0x8F⟩, .continuation, .continuation]⟩
  else none

/-- What stands at the front of a byte stream, and the bytes behind it. -/
inductive Front where
  /-- A well-formed sequence. -/
  | character (c : Char) (rest : Bytes)
  /-- A first byte that begins no sequence, or a sequence that a byte breaks off which cannot
  follow. -/
  | illFormed (rest : Bytes)
  /-- A sequence that may still go on where the stream ends. -/
  | cutShort
  deriving Repr, DecidableEq

/-- Read the bytes that have to follow a first byte. -/
def continued (bits : Nat) : List ByteRange → Bytes → Front
  | [], rest => .character (Char.ofNat bits) rest
  | _ :: _, [] => .cutShort
  | range :: expected, b :: rest =>
    if range.has b then continued (bits * 64 + b.toNat % 64) expected rest
    else .illFormed (b :: rest)

/-- Read what stands at the front of a stream that begins with a given byte. -/
def front (b : UInt8) (rest : Bytes) : Front :=
  match Lead.ofByte? b with
  | none => .illFormed rest
  | some lead => continued lead.bits lead.expected rest

theorem length_le_of_continued_character {bits : Nat} {expected : List ByteRange} {b rest : Bytes}
    {c : Char} (h : continued bits expected b = .character c rest) : rest.length ≤ b.length := by
  induction expected generalizing bits b with
  | nil => simp only [continued, Front.character.injEq] at h; simp [h.2]
  | cons range expected ih =>
    cases b with
    | nil => simp [continued] at h
    | cons x b =>
      simp only [continued] at h
      split at h
      · exact Nat.le_succ_of_le (ih h)
      · simp at h

theorem length_le_of_continued_illFormed {bits : Nat} {expected : List ByteRange} {b rest : Bytes}
    (h : continued bits expected b = .illFormed rest) : rest.length ≤ b.length := by
  induction expected generalizing bits b with
  | nil => simp [continued] at h
  | cons range expected ih =>
    cases b with
    | nil => simp [continued] at h
    | cons x b =>
      simp only [continued] at h
      split at h
      · exact Nat.le_succ_of_le (ih h)
      · simp only [Front.illFormed.injEq] at h; simp [← h]

/-- A character takes at least its first byte. -/
theorem length_le_of_front_character {x : UInt8} {b rest : Bytes} {c : Char}
    (h : front x b = .character c rest) : rest.length ≤ b.length := by
  unfold front at h
  split at h
  · simp at h
  · exact length_le_of_continued_character h

/-- An ill-formed sequence takes at least its first byte. -/
theorem length_le_of_front_illFormed {x : UInt8} {b rest : Bytes}
    (h : front x b = .illFormed rest) : rest.length ≤ b.length := by
  unfold front at h
  split at h
  · simp only [Front.illFormed.injEq] at h; simp [h]
  · exact length_le_of_continued_illFormed h

/-- Read a whole stream: every character as itself, every ill-formed or cut short sequence as one
U+FFFD. -/
def lossy : Bytes → Text
  | [] => []
  | x :: b =>
    match _h : front x b with
    | .character c rest => c :: lossy rest
    | .illFormed rest => replacement :: lossy rest
    | .cutShort => [replacement]
termination_by b => b.length
decreasing_by
  · have := length_le_of_front_character _h; simp; omega
  · have := length_le_of_front_illFormed _h; simp; omega

/-- Read characters as long as there are any, behind those already read (last one first): all of
them, and the bytes from the first fault on. -/
def charactersFrom (seen : Text) : Bytes → Text × Bytes
  | [] => (seen.reverse, [])
  | x :: b =>
    match _h : front x b with
    | .character c rest => charactersFrom (c :: seen) rest
    | _ => (seen.reverse, x :: b)
termination_by b => b.length
decreasing_by have := length_le_of_front_character _h; simp; omega

/-- The longest part at the front that is all characters, and the bytes from the first fault on. -/
def characters (b : Bytes) : Text × Bytes := charactersFrom [] b

/-- Read a stream that must be well-formed throughout. -/
def decode? (b : Bytes) : Option Text :=
  match characters b with
  | (text, []) => some text
  | _ => none

/-- What is left from the first fault on is no longer than the stream. -/
theorem length_charactersFrom_le (seen : Text) (b : Bytes) :
    (charactersFrom seen b).2.length ≤ b.length := by
  fun_induction charactersFrom seen b with
  | case1 => simp
  | case2 seen x b c rest h ih =>
    have := length_le_of_front_character h
    simp only [List.length_cons]
    omega
  | case3 => simp

end BenchRelay.Utf8
