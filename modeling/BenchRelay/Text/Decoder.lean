import BenchRelay.Text.Utf8

/-!
# Decoding a byte stream piece by piece

A decoder reads UTF-8 that arrives in pieces cut anywhere. It holds back the bytes of a sequence
that the end of a piece cuts short, and reads everything else at once, an ill-formed sequence as
one U+FFFD. `flush` reads what is held back when no more bytes will come.
-/

namespace BenchRelay

/-- The state of a decoder: the bytes that it holds back. -/
structure Decoder where
  carry : Bytes := []
  deriving Repr, DecidableEq

namespace Decoder

/-- Read all that can be read, and give the bytes of a sequence cut short at the end. -/
def resolve (b : Bytes) : Text × Bytes :=
  match _h : Utf8.characters b with
  | (text, []) => (text, [])
  | (text, x :: rest) =>
    match _h' : Utf8.front x rest with
    | .illFormed rest' =>
      let (more, carry) := resolve rest'
      (text ++ Utf8.replacement :: more, carry)
    | _ => (text, x :: rest)
termination_by b.length
decreasing_by
  have h₁ := Utf8.length_charactersFrom_le [] b
  have h₂ := Utf8.length_le_of_front_illFormed _h'
  rw [show Utf8.charactersFrom [] b = (text, x :: rest) from _h, List.length_cons] at h₁
  omega

/-- Read one more piece of the stream. -/
def feed (decoder : Decoder) (piece : Bytes) : Text × Decoder :=
  let (text, carry) := resolve (decoder.carry ++ piece)
  (text, ⟨carry⟩)

/-- Read what is held back, and start afresh. -/
def flush (decoder : Decoder) : Text × Decoder :=
  (Utf8.lossy decoder.carry, {})

/-- Whether bytes are held back. -/
def holdsBytes (decoder : Decoder) : Bool := !decoder.carry.isEmpty

end Decoder

end BenchRelay
