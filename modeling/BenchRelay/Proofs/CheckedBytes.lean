import BenchRelay.Proofs.HeldBackBytes

/-!
# Checking bytes up to the first fault

A check of a byte stream finds that all of it is well-formed, or where it is not: how many bytes in
front of the fault are well-formed, and how many bytes the ill-formed sequence there has. A sequence
that the end of the stream cuts short has no such number, as more bytes may complete it.
-/

namespace BenchRelay.Utf8

/-- The first fault in a byte stream. -/
structure Fault where
  /-- The number of well-formed bytes in front of it. -/
  validUpTo : ℕ
  /-- The number of bytes of the ill-formed sequence, or nothing if a sequence is cut short. -/
  errorLength : Option ℕ
  deriving Repr, DecidableEq

/-- Read a byte stream that is well-formed throughout, or find its first fault. -/
def check (b : Bytes) : Except Fault Text :=
  match characters b with
  | (text, []) => .ok text
  | (_, x :: rest) =>
    .error ⟨b.length - (x :: rest).length,
      match front x rest with
      | .illFormed later => some ((x :: rest).length - later.length)
      | _ => none⟩

/-- What a check has to find: the well-formed bytes in front of the first fault, and there a maximal
subpart of ill-formed bytes or an unfinished sequence. -/
inductive Checked : Bytes → Except Fault Text → Prop
  | whole (text : Text) : Checked text.utf8 (.ok text)
  | broken (text : Text) {s later : Bytes} (subpart : IsMaximalSubpart s (s ++ later))
      (finished : ¬ Unfinished (s ++ later)) :
      Checked (text.utf8 ++ (s ++ later)) (.error ⟨text.utf8.length, some s.length⟩)
  | unfinished (text : Text) {s : Bytes} (cutShort : Unfinished s) :
      Checked (text.utf8 ++ s) (.error ⟨text.utf8.length, none⟩)

/-- The characters at the front and the bytes from the first fault on make up the stream. -/
theorem utf8_characters_append (b : Bytes) : (characters b).1.utf8 ++ (characters b).2 = b := by
  induction b using lossy.induct with
  | case1 => simp [characters, charactersFrom]
  | case2 x b c rest h ih =>
    rw [characters_of_front_character h, Text.utf8_cons, List.append_assoc, ih, encode_of_front h]
  | case3 x b rest h => rw [characters_of_front_illFormed h, Text.utf8_nil, List.nil_append]
  | case4 x b h => rw [characters_of_front_cutShort h, Text.utf8_nil, List.nil_append]

/-- No character stands at the first fault. -/
theorem front_of_characters {b rest later : Bytes} {text : Text} {x : UInt8} {c : Char}
    (h : characters b = (text, x :: rest)) : front x rest ≠ .character c later := by
  induction b using lossy.induct generalizing text with
  | case1 => simp [characters, charactersFrom] at h
  | case2 y b d behind hfront ih =>
    rw [characters_of_front_character hfront, Prod.mk.injEq] at h
    exact ih (Prod.ext rfl h.2)
  | case3 y b behind hfront =>
    rw [characters_of_front_illFormed hfront, Prod.mk.injEq, List.cons.injEq] at h
    obtain ⟨-, rfl, rfl⟩ := h
    simp [hfront]
  | case4 y b hfront =>
    rw [characters_of_front_cutShort hfront, Prod.mk.injEq, List.cons.injEq] at h
    obtain ⟨-, rfl, rfl⟩ := h
    simp [hfront]

/-- A check finds what it has to. -/
theorem checked_check (b : Bytes) : Checked b (check b) := by
  have hwhole := utf8_characters_append b
  unfold check
  split
  · next text h =>
    rw [h, List.append_nil] at hwhole
    exact hwhole ▸ .whole text
  · next text x rest h =>
    rw [h] at hwhole
    have hvalid : b.length - (x :: rest).length = text.utf8.length := by
      rw [← hwhole, List.length_append, Nat.add_sub_cancel_right]
    rw [hvalid]
    cases hfront : front x rest with
    | character c later => exact absurd hfront (front_of_characters h)
    | illFormed later =>
      obtain ⟨s, hs, hsubpart⟩ := isMaximalSubpart_of_front_illFormed hfront
      have hfinished : ¬ Unfinished (x :: rest) := by
        rw [← front_eq_cutShort_iff, hfront]
        simp
      have hlength : (x :: rest).length - later.length = s.length := by
        rw [hs, List.length_append, Nat.add_sub_cancel_right]
      dsimp only
      rw [hlength, ← hwhole]
      rw [hs] at hsubpart hfinished ⊢
      exact .broken text hsubpart hfinished
    | cutShort =>
      rw [← hwhole]
      exact .unfinished text (front_eq_cutShort_iff.mp hfront)

example : check [0x61, 0xF0, 0x9F, 0x62] = .error ⟨1, some 2⟩ := by decide +kernel

end BenchRelay.Utf8

namespace BenchRelay.Decoder

open Utf8

/-- Characters at the front are resolved first. -/
theorem resolve_utf8_append (text : Text) (b : Bytes) :
    resolve (text.utf8 ++ b) = (text ++ (resolve b).1, (resolve b).2) := by
  rw [resolve_append, resolve_utf8, List.nil_append]

/-- A maximal subpart that is over is resolved to one U+FFFD. -/
theorem resolve_of_isMaximalSubpart {s later : Bytes} (h : IsMaximalSubpart s (s ++ later))
    (hfinished : ¬ Unfinished (s ++ later)) :
    resolve (s ++ later) = (replacement :: (resolve later).1, (resolve later).2) := by
  obtain ⟨x, s, rfl⟩ := List.exists_cons_of_length_pos h.length_pos
  obtain hfront | ⟨hfront, -⟩ := front_of_isMaximalSubpart h
  · exact resolve_of_front_illFormed hfront
  · exact absurd (front_eq_cutShort_iff.mp hfront) hfinished

theorem resolve_of_unfinished {s : Bytes} (h : Unfinished s) : resolve s = ([], s) := by
  obtain ⟨x, s, rfl⟩ := List.exists_cons_of_ne_nil h.1
  exact resolve_of_front_cutShort (front_eq_cutShort_iff.mpr h)

end BenchRelay.Decoder
