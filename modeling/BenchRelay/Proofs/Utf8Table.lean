import BenchRelay.Text.Utf8
import Mathlib.Data.List.Forall2

/-!
# The table of well-formed sequences

Unicode Table 3-7 as data: each row gives the ranges that the bytes of a well-formed sequence lie
in. A sequence fills exactly one row, and `front` recognises it there. The rows hold the encodings
of characters and nothing else, so the table knows no overlong form, no surrogate and nothing above
U+10FFFF.
-/

namespace BenchRelay.Utf8

/-- The rows of Table 3-7, from U+0000 to U+10FFFF. -/
def table : List (List ByteRange) :=
  [[⟨0x00, 0x7F⟩],
    [⟨0xC2, 0xDF⟩, .continuation],
    [⟨0xE0, 0xE0⟩, ⟨0xA0, 0xBF⟩, .continuation],
    [⟨0xE1, 0xEC⟩, .continuation, .continuation],
    [⟨0xED, 0xED⟩, ⟨0x80, 0x9F⟩, .continuation],
    [⟨0xEE, 0xEF⟩, .continuation, .continuation],
    [⟨0xF0, 0xF0⟩, ⟨0x90, 0xBF⟩, .continuation, .continuation],
    [⟨0xF1, 0xF3⟩, .continuation, .continuation, .continuation],
    [⟨0xF4, 0xF4⟩, ⟨0x80, 0x8F⟩, .continuation, .continuation]]

/-- Bytes that lie in the ranges of a row, one byte in each. -/
def Fits (row : List ByteRange) (s : Bytes) : Prop :=
  List.Forall₂ (fun range b => range.has b) row s

/-- A sequence of bytes that some row of the table describes. -/
def WellFormed (s : Bytes) : Prop := ∃ row ∈ table, Fits row s

theorem ByteRange.has_iff {range : ByteRange} {b : UInt8} :
    range.has b ↔ range.low ≤ b.toNat ∧ b.toNat ≤ range.high := by
  simp [ByteRange.has]

@[simp] theorem fits_nil_left_iff {s : Bytes} : Fits [] s ↔ s = [] := List.forall₂_nil_left_iff

theorem fits_cons_iff {range : ByteRange} {row : List ByteRange} {s : Bytes} :
    Fits (range :: row) s ↔ ∃ b rest, s = b :: rest ∧ range.has b ∧ Fits row rest := by
  constructor
  · rintro (_ | ⟨hb, hrest⟩)
    exact ⟨_, _, rfl, hb, hrest⟩
  · rintro ⟨b, rest, rfl, hb, hrest⟩
    exact .cons hb hrest

/-- What a first byte has above the bits of the code point that it carries, by the number of bytes
behind it. -/
def leadBase : ℕ → ℕ
  | 0 => 0x00
  | 1 => 0xC0
  | 2 => 0xE0
  | _ + 3 => 0xF0

/-- A first byte leads exactly as the rows that begin with it say. -/
theorem ofByte?_eq_some_iff {x : UInt8} {lead : Lead} :
    Lead.ofByte? x = some lead ↔ ∃ range, range :: lead.expected ∈ table ∧ range.has x ∧
      lead.bits = x.toNat - leadBase lead.expected.length := by
  obtain ⟨bits, expected⟩ := lead
  simp only [ByteRange.has_iff, table, List.mem_cons, List.cons.injEq, List.not_mem_nil, or_false]
  constructor
  · intro h
    unfold Lead.ofByte? at h
    dsimp only at h
    by_cases h₁ : x.toNat < 0x80
    · exact ⟨⟨0x00, 0x7F⟩, by grind, by grind, by grind [leadBase]⟩
    by_cases h₂ : x.toNat < 0xE0
    · exact ⟨⟨0xC2, 0xDF⟩, by grind, by grind, by grind [leadBase]⟩
    by_cases h₃ : x.toNat = 0xE0
    · exact ⟨⟨0xE0, 0xE0⟩, by grind, by grind, by grind [leadBase]⟩
    by_cases h₄ : x.toNat < 0xED
    · exact ⟨⟨0xE1, 0xEC⟩, by grind, by grind, by grind [leadBase]⟩
    by_cases h₅ : x.toNat = 0xED
    · exact ⟨⟨0xED, 0xED⟩, by grind, by grind, by grind [leadBase]⟩
    by_cases h₆ : x.toNat < 0xF0
    · exact ⟨⟨0xEE, 0xEF⟩, by grind, by grind, by grind [leadBase]⟩
    by_cases h₇ : x.toNat = 0xF0
    · exact ⟨⟨0xF0, 0xF0⟩, by grind, by grind, by grind [leadBase]⟩
    by_cases h₈ : x.toNat < 0xF4
    · exact ⟨⟨0xF1, 0xF3⟩, by grind, by grind, by grind [leadBase]⟩
    · exact ⟨⟨0xF4, 0xF4⟩, by grind, by grind, by grind [leadBase]⟩
  · rintro ⟨range, hrow, hx, rfl⟩
    rcases hrow with ⟨rfl, rfl⟩ | ⟨rfl, rfl⟩ | ⟨rfl, rfl⟩ | ⟨rfl, rfl⟩ | ⟨rfl, rfl⟩ | ⟨rfl, rfl⟩ |
      ⟨rfl, rfl⟩ | ⟨rfl, rfl⟩ | ⟨rfl, rfl⟩ <;>
    · unfold Lead.ofByte?
      simp only [leadBase, List.length_cons, List.length_nil]
      grind

/-- A sequence is well-formed if its first byte leads and the ranges that this asks for fit the
rest. -/
theorem wellFormed_cons_iff {x : UInt8} {s : Bytes} :
    WellFormed (x :: s) ↔ ∃ lead, Lead.ofByte? x = some lead ∧ Fits lead.expected s := by
  constructor
  · rintro ⟨row, hrow, hfits⟩
    cases hfits with
    | @cons _ _ expected _ hx hs =>
      let lead : Lead := ⟨x.toNat - leadBase expected.length, expected⟩
      exact ⟨lead, ofByte?_eq_some_iff.mpr ⟨_, hrow, hx, rfl⟩, hs⟩
  · rintro ⟨lead, hlead, hs⟩
    obtain ⟨range, hrow, hx, -⟩ := ofByte?_eq_some_iff.mp hlead
    exact ⟨_, hrow, .cons hx hs⟩

/-- Behind the first byte of a sequence stand bytes that continue it. -/
theorem continues_of_fits {x : UInt8} {lead : Lead} {row : List ByteRange} {s : Bytes}
    (hlead : Lead.ofByte? x = some lead) (hrow : row <+: lead.expected) (hs : Fits row s) :
    ∀ y ∈ s, ByteRange.continuation.has y := by
  have htable : ∀ row ∈ table, ∀ range ∈ row.tail, 0x80 ≤ range.low ∧ range.high ≤ 0xBF := by decide
  obtain ⟨first, hfirst, -⟩ := ofByte?_eq_some_iff.mp hlead
  replace hrow : ∀ range ∈ row, 0x80 ≤ range.low ∧ range.high ≤ 0xBF :=
    fun range hrange => htable _ hfirst range (hrow.subset hrange)
  clear hlead hfirst
  induction hs with
  | nil => simp
  | cons hb _ ih =>
    simp only [List.mem_cons, forall_eq_or_imp] at hrow ⊢
    rw [ByteRange.has_iff] at hb
    refine ⟨?_, ih hrow.2⟩
    simp only [ByteRange.has_iff, ByteRange.continuation]
    omega

/-- A byte that continues a sequence begins none. -/
theorem ofByte?_of_continuation {y : UInt8} (h : ByteRange.continuation.has y) :
    Lead.ofByte? y = none := by
  simp only [ByteRange.has_iff, ByteRange.continuation] at h
  unfold Lead.ofByte?
  grind

/-- The code point that bytes carry behind given bits, six bits each. -/
def codePoint (bits : ℕ) (s : Bytes) : ℕ := s.foldl (fun n b => n * 64 + b.toNat % 64) bits

/-- Bytes that fit are read as the character of their code point. -/
theorem continued_of_fits {expected : List ByteRange} {s : Bytes} (h : Fits expected s) (bits : ℕ)
    (rest : Bytes) :
    continued bits expected (s ++ rest) = .character (Char.ofNat (codePoint bits s)) rest := by
  induction h generalizing bits with
  | nil => rfl
  | cons hb _ ih => simp only [List.cons_append, continued, hb, if_true, ih]; rfl

theorem toNat_ofNat_of_isValidChar {n : ℕ} (h : n.isValidChar) : (Char.ofNat n).val.toNat = n := by
  rw [Char.ofNat, dif_pos h]
  rfl

theorem ofNat_eq_of_mod {n : ℕ} {b : UInt8} (h : n % 256 = b.toNat) : UInt8.ofNat n = b := by
  rw [← UInt8.toNat_inj]
  simpa using h

theorem encode_one {x : UInt8} (hx : x.toNat < 0x80) :
    String.utf8EncodeChar (Char.ofNat x.toNat) = [x] := by
  have hval := toNat_ofNat_of_isValidChar (n := x.toNat) (.inl (by omega))
  simp only [String.utf8EncodeChar, hval]
  rw [if_pos (by omega), ofNat_eq_of_mod (b := x) (by omega)]

theorem encode_two {n : ℕ} {x y : UInt8} (hn : n = (x.toNat - 0xC0) * 64 + y.toNat % 64)
    (hx : 0xC2 ≤ x.toNat ∧ x.toNat < 0xE0) (hy : 0x80 ≤ y.toNat ∧ y.toNat ≤ 0xBF) :
    String.utf8EncodeChar (Char.ofNat n) = [x, y] := by
  have hval := toNat_ofNat_of_isValidChar (n := n) (.inl (by omega))
  simp only [String.utf8EncodeChar, hval]
  rw [if_neg (by omega), if_pos (by omega), ofNat_eq_of_mod (b := x) (by omega),
    ofNat_eq_of_mod (b := y) (by omega)]

theorem encode_three {n : ℕ} {x y z : UInt8}
    (hn : n = ((x.toNat - 0xE0) * 64 + y.toNat % 64) * 64 + z.toNat % 64)
    (hx : 0xE0 ≤ x.toNat ∧ x.toNat < 0xF0) (hy : 0x80 ≤ y.toNat ∧ y.toNat ≤ 0xBF)
    (hz : 0x80 ≤ z.toNat ∧ z.toNat ≤ 0xBF) (hlow : 0x800 ≤ n) (hvalid : n.isValidChar) :
    String.utf8EncodeChar (Char.ofNat n) = [x, y, z] := by
  have hval := toNat_ofNat_of_isValidChar hvalid
  simp only [String.utf8EncodeChar, hval]
  rw [if_neg (by omega), if_neg (by omega), if_pos (by omega), ofNat_eq_of_mod (b := x) (by omega),
    ofNat_eq_of_mod (b := y) (by omega), ofNat_eq_of_mod (b := z) (by omega)]

theorem encode_four {n : ℕ} {x y z w : UInt8}
    (hn : n = (((x.toNat - 0xF0) * 64 + y.toNat % 64) * 64 + z.toNat % 64) * 64 + w.toNat % 64)
    (hx : 0xF0 ≤ x.toNat ∧ x.toNat ≤ 0xF4) (hy : 0x80 ≤ y.toNat ∧ y.toNat ≤ 0xBF)
    (hz : 0x80 ≤ z.toNat ∧ z.toNat ≤ 0xBF) (hw : 0x80 ≤ w.toNat ∧ w.toNat ≤ 0xBF)
    (hlow : 0x10000 ≤ n) (hvalid : n.isValidChar) :
    String.utf8EncodeChar (Char.ofNat n) = [x, y, z, w] := by
  have hval := toNat_ofNat_of_isValidChar hvalid
  simp only [String.utf8EncodeChar, hval]
  rw [if_neg (by omega), if_neg (by omega), if_neg (by omega), ofNat_eq_of_mod (b := x) (by omega),
    ofNat_eq_of_mod (b := y) (by omega), ofNat_eq_of_mod (b := z) (by omega),
    ofNat_eq_of_mod (b := w) (by omega)]

/-- The bytes of a well-formed sequence encode the character that is read from them. -/
theorem encode_codePoint {x : UInt8} {lead : Lead} {s : Bytes} (hlead : Lead.ofByte? x = some lead)
    (hs : Fits lead.expected s) :
    String.utf8EncodeChar (Char.ofNat (codePoint lead.bits s)) = x :: s := by
  obtain ⟨range, hrow, hx, hbits⟩ := ofByte?_eq_some_iff.mp hlead
  obtain ⟨bits, expected⟩ := lead
  dsimp only at hbits hs
  subst hbits
  simp only [table, List.mem_cons, List.cons.injEq, List.not_mem_nil, or_false] at hrow
  rcases hrow with ⟨rfl, rfl⟩ | ⟨rfl, rfl⟩ | ⟨rfl, rfl⟩ | ⟨rfl, rfl⟩ | ⟨rfl, rfl⟩ | ⟨rfl, rfl⟩ |
      ⟨rfl, rfl⟩ | ⟨rfl, rfl⟩ | ⟨rfl, rfl⟩ <;>
    simp only [fits_cons_iff, fits_nil_left_iff, ByteRange.has_iff, ByteRange.continuation] at hs hx
  · subst hs
    exact encode_one (by omega)
  · obtain ⟨y, _, rfl, hy, rfl⟩ := hs
    exact encode_two rfl (by omega) (by omega)
  iterate 4
    obtain ⟨y, _, rfl, hy, z, _, rfl, hz, rfl⟩ := hs
    refine encode_three rfl (by omega) (by omega) (by omega) ?_ ?_ <;>
      simp only [codePoint, List.foldl, leadBase, List.length, Nat.isValidChar] <;> omega
  all_goals
    obtain ⟨y, _, rfl, hy, z, _, rfl, hz, w, _, rfl, hw, rfl⟩ := hs
    refine encode_four rfl (by omega) (by omega) (by omega) (by omega) ?_ ?_ <;>
      simp only [codePoint, List.foldl, leadBase, List.length, Nat.isValidChar] <;> omega

theorem encode_injective : Function.Injective String.utf8EncodeChar := by
  intro c d h
  have hc := ByteArray.utf8DecodeChar?_utf8EncodeChar_append (b := .empty) (c := c)
  rw [h, ByteArray.utf8DecodeChar?_utf8EncodeChar_append] at hc
  exact (Option.some.inj hc).symm

/-- The encoding of a character fills a row of the table. -/
theorem wellFormed_encode (c : Char) : WellFormed (String.utf8EncodeChar c) := by
  have hvalid := c.valid
  simp only [UInt32.isValidChar, Nat.isValidChar] at hvalid
  simp only [String.utf8EncodeChar]
  generalize c.val.toNat = n at hvalid ⊢
  by_cases h₁ : n ≤ 0x7F
  · rw [if_pos h₁]
    refine ⟨[⟨0x00, 0x7F⟩], by simp [table], ?_⟩
    simp [fits_cons_iff, ByteRange.has_iff]
    omega
  rw [if_neg h₁]
  by_cases h₂ : n ≤ 0x7FF
  · rw [if_pos h₂]
    refine ⟨[⟨0xC2, 0xDF⟩, .continuation], by simp [table], ?_⟩
    simp [fits_cons_iff, ByteRange.has_iff, ByteRange.continuation]
    omega
  rw [if_neg h₂]
  by_cases h₃ : n ≤ 0xFFFF
  · rw [if_pos h₃]
    obtain h | h | h | h : n ≤ 0xFFF ∨ (0x1000 ≤ n ∧ n ≤ 0xCFFF) ∨ (0xD000 ≤ n ∧ n < 0xD800) ∨
      0xE000 ≤ n := by omega
    on_goal 1 => refine ⟨[⟨0xE0, 0xE0⟩, ⟨0xA0, 0xBF⟩, .continuation], by simp [table], ?_⟩
    on_goal 2 => refine ⟨[⟨0xE1, 0xEC⟩, .continuation, .continuation], by simp [table], ?_⟩
    on_goal 3 => refine ⟨[⟨0xED, 0xED⟩, ⟨0x80, 0x9F⟩, .continuation], by simp [table], ?_⟩
    on_goal 4 => refine ⟨[⟨0xEE, 0xEF⟩, .continuation, .continuation], by simp [table], ?_⟩
    all_goals
      simp [fits_cons_iff, ByteRange.has_iff, ByteRange.continuation]
      omega
  · rw [if_neg h₃]
    obtain h | h | h : n ≤ 0x3FFFF ∨ (0x40000 ≤ n ∧ n ≤ 0xFFFFF) ∨ 0x100000 ≤ n := by omega
    on_goal 1 =>
      refine ⟨[⟨0xF0, 0xF0⟩, ⟨0x90, 0xBF⟩, .continuation, .continuation], by simp [table], ?_⟩
    on_goal 2 =>
      refine ⟨[⟨0xF1, 0xF3⟩, .continuation, .continuation, .continuation], by simp [table], ?_⟩
    on_goal 3 =>
      refine ⟨[⟨0xF4, 0xF4⟩, ⟨0x80, 0x8F⟩, .continuation, .continuation], by simp [table], ?_⟩
    all_goals
      simp [fits_cons_iff, ByteRange.has_iff, ByteRange.continuation]
      omega

end BenchRelay.Utf8
