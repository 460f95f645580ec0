import BenchRelay.Proofs.DecoderCalls

/-!
# What a decoder holds back

Between two pieces a decoder holds back the one suffix of the bytes read so far that more bytes
could still complete: a sequence that has begun and is not over. No byte that continues a sequence
begins one, so such a suffix begins where its sequence does, whatever stands before it, and there is
at most one. A sequence has four bytes at most and the carry therefore three. Behind a carry a piece
makes at most one character more than it has bytes, and otherwise no more than it has.
-/

namespace BenchRelay

namespace Utf8

/-- Bytes that begin a sequence of two to four bytes and are not all of it. -/
def Unfinished (s : Bytes) : Prop :=
  s ≠ [] ∧ ∃ whole, WellFormed whole ∧ 2 ≤ whole.length ∧ whole.length ≤ 4 ∧ s <+: whole ∧ s ≠ whole

/-- The bytes behind what stands at the front. -/
def Front.rest : Front → Bytes
  | .character _ rest | .illFormed rest => rest
  | .cutShort => []

theorem length_le_of_wellFormed {s : Bytes} (h : WellFormed s) : s.length ≤ 4 := by
  have htable : ∀ row ∈ table, row.length ≤ 4 := by decide
  obtain ⟨row, hrow, hfits⟩ := h
  rw [← hfits.length_eq]
  exact htable row hrow

/-- A well-formed sequence at the front is found as a character. -/
theorem front_of_wellFormed {x : UInt8} {s : Bytes} (h : WellFormed (x :: s)) (rest : Bytes) :
    ∃ c, front x (s ++ rest) = .character c rest := by
  obtain ⟨lead, hlead, hs⟩ := wellFormed_cons_iff.mp h
  exact ⟨_, by rw [front, hlead]; exact continued_of_fits hs _ rest⟩

/-- What is cut short is what more bytes could complete. -/
theorem front_eq_cutShort_iff {x : UInt8} {b : Bytes} :
    front x b = .cutShort ↔ Unfinished (x :: b) := by
  constructor
  · intro h
    obtain ⟨⟨more, hwhole⟩, hsubpart⟩ := isMaximalSubpart_of_front_cutShort h
    have hne : x :: b ≠ x :: b ++ more := by
      intro heq
      exact hsubpart.unconvertible _ List.prefix_rfl (heq ▸ hwhole)
    have hmore : more ≠ [] := by
      rintro rfl
      simp at hne
    have hlength := List.length_pos_iff.mpr hmore
    refine ⟨by simp, _, hwhole, ?_, length_le_of_wellFormed hwhole, List.prefix_append _ _, hne⟩
    simp only [List.length_append, List.length_cons]
    omega
  · rintro ⟨-, whole, hwhole, -, -, ⟨more, rfl⟩, hne⟩
    rw [List.cons_append] at hwhole
    obtain ⟨c, hc⟩ := front_of_wellFormed hwhole []
    rw [List.append_nil] at hc
    cases hfront : front x b with
    | character d rest =>
      rw [front_append_of_character hfront, Front.character.injEq, List.append_eq_nil_iff] at hc
      simp [hc.2.2] at hne
    | illFormed rest => simp [front_append_of_illFormed hfront] at hc
    | cutShort => rfl

theorem Unfinished.length_le {s : Bytes} (h : Unfinished s) : s.length ≤ 3 := by
  obtain ⟨-, whole, -, -, hlength, hbegins, hne⟩ := h
  have hshort : ¬ whole.length ≤ s.length := fun hle => hne (hbegins.eq_of_length_le hle)
  omega

/-- An unfinished sequence does not begin with a byte that continues one. -/
theorem Unfinished.not_continuation {y : UInt8} {s : Bytes} (h : Unfinished (y :: s)) :
    ¬ ByteRange.continuation.has y := by
  obtain ⟨-, whole, hwhole, -, -, ⟨more, rfl⟩, -⟩ := h
  rw [List.cons_append] at hwhole
  obtain ⟨lead, hlead, -⟩ := wellFormed_cons_iff.mp hwhole
  intro hy
  simp [ofByte?_of_continuation hy] at hlead

/-- What stands at the front is one byte and bytes that continue it. -/
theorem exists_continuation_of_front (x : UInt8) (b : Bytes) :
    ∃ s, b = s ++ (front x b).rest ∧ ∀ y ∈ s, ByteRange.continuation.has y := by
  unfold front
  cases hlead : Lead.ofByte? x with
  | none => exact ⟨[], rfl, by simp⟩
  | some lead =>
    dsimp only
    cases hfront : continued lead.bits lead.expected b with
    | character c rest =>
      obtain ⟨s, rfl, hs, -⟩ := fits_of_continued_character hfront
      exact ⟨s, rfl, continues_of_fits hlead List.prefix_rfl hs⟩
    | illFormed rest =>
      obtain ⟨row, range, later, s, y, more, hexpected, rfl, rfl, hs, -⟩ :=
        break_of_continued_illFormed hfront
      exact ⟨s, rfl, continues_of_fits hlead ⟨_, hexpected.symm⟩ hs⟩
    | cutShort =>
      obtain ⟨row, range, later, hexpected, hs⟩ := fits_of_continued_cutShort hfront
      exact ⟨b, by simp [Front.rest], continues_of_fits hlead ⟨_, hexpected.symm⟩ hs⟩

theorem suffix_of_unfinished {s rest t : Bytes} (hs : ∀ y ∈ s, ByteRange.continuation.has y)
    (ht : Unfinished t) (hsuffix : t <:+ s ++ rest) : t <:+ rest := by
  induction s with
  | nil => exact hsuffix
  | cons y s ih =>
    simp only [List.mem_cons, forall_eq_or_imp] at hs
    rw [List.cons_append, List.suffix_cons_iff] at hsuffix
    rcases hsuffix with rfl | hsuffix
    · exact absurd hs.1 ht.not_continuation
    · exact ih hs.2 hsuffix

/-- Where a sequence at the front is over, an unfinished one can only stand behind it. -/
theorem suffix_rest_iff {x : UInt8} {b t : Bytes} (h : front x b ≠ .cutShort) (ht : Unfinished t) :
    t <:+ x :: b ↔ t <:+ (front x b).rest := by
  obtain ⟨s, hb, hs⟩ := exists_continuation_of_front x b
  constructor
  · intro hsuffix
    rcases List.suffix_cons_iff.mp hsuffix with rfl | hsuffix
    · exact absurd (front_eq_cutShort_iff.mpr ht) h
    · rw [hb] at hsuffix
      exact suffix_of_unfinished hs ht hsuffix
  · intro hsuffix
    refine hsuffix.trans (List.IsSuffix.trans ?_ (List.suffix_cons x b))
    exact ⟨s, hb.symm⟩

/-- A stream reads as the one character at its front and those behind it. -/
theorem length_lossy_cons (x : UInt8) (b : Bytes) :
    (lossy (x :: b)).length = (lossy (front x b).rest).length + 1 := by
  cases h : front x b with
  | character c rest => simp [lossy_of_front_character h, Front.rest]
  | illFormed rest => simp [lossy_of_front_illFormed h, Front.rest]
  | cutShort => simp [lossy_of_front_cutShort h, Front.rest]

theorem length_rest_continued_le (bits : ℕ) (expected : List ByteRange) (b : Bytes) :
    (continued bits expected b).rest.length ≤ b.length := by
  cases h : continued bits expected b with
  | character c rest => exact length_le_of_continued_character h
  | illFormed rest => exact length_le_of_continued_illFormed h
  | cutShort => simp [Front.rest]

theorem length_rest_continued_append_le {bits : ℕ} {expected : List ByteRange} {b : Bytes}
    (h : continued bits expected b = .cutShort) (more : Bytes) :
    (continued bits expected (b ++ more)).rest.length ≤ more.length := by
  induction expected generalizing bits b with
  | nil => simp [continued] at h
  | cons range expected ih =>
    cases b with
    | nil => exact length_rest_continued_le bits (range :: expected) more
    | cons y b =>
      simp only [continued, List.cons_append] at h ⊢
      split at h
      · next hy =>
        rw [if_pos hy]
        exact ih h
      · simp at h

/-- Of what stands behind a sequence that was cut short no more is left than it has bytes. -/
theorem length_rest_append_le {x : UInt8} {b : Bytes} (h : front x b = .cutShort) (more : Bytes) :
    (front x (b ++ more)).rest.length ≤ more.length := by
  unfold front at h ⊢
  split at h
  · simp at h
  · exact length_rest_continued_append_le h more

theorem length_lossy_le (b : Bytes) : (lossy b).length ≤ b.length := by
  induction b using lossy.induct with
  | case1 => simp
  | case2 x b c rest h ih =>
    have hrest := length_le_of_front_character h
    rw [lossy_of_front_character h, List.length_cons, List.length_cons]
    omega
  | case3 x b rest h ih =>
    have hrest := length_le_of_front_illFormed h
    rw [lossy_of_front_illFormed h, List.length_cons, List.length_cons]
    omega
  | case4 x b h => simp [lossy_of_front_cutShort h]

/-- More bytes read as no more characters than they are. -/
theorem length_lossy_append_le (b more : Bytes) :
    (lossy (b ++ more)).length ≤ (lossy b).length + more.length := by
  induction b using lossy.induct with
  | case1 => simpa using length_lossy_le more
  | case2 x b c rest h ih =>
    rw [List.cons_append, lossy_of_front_character (front_append_of_character h more),
      lossy_of_front_character h, List.length_cons, List.length_cons]
    omega
  | case3 x b rest h ih =>
    rw [List.cons_append, lossy_of_front_illFormed (front_append_of_illFormed h more),
      lossy_of_front_illFormed h, List.length_cons, List.length_cons]
    omega
  | case4 x b h =>
    have hrest := length_rest_append_le h more
    have hread := length_lossy_le (front x (b ++ more)).rest
    rw [List.cons_append, length_lossy_cons, lossy_of_front_cutShort h, List.length_singleton]
    omega

end Utf8

namespace Decoder

open Utf8

/-- The unfinished sequence at the end of a stream, if there is one, is what cannot be resolved. -/
theorem unfinished_suffix_iff (b s : Bytes) :
    s <:+ b ∧ Unfinished s ↔ s = (resolve b).2 ∧ s ≠ [] := by
  have hrest {x : UInt8} {b rest : Bytes} (h : front x b ≠ .cutShort)
      (hbehind : (front x b).rest = rest) :
      s <:+ x :: b ∧ Unfinished s ↔ s <:+ rest ∧ Unfinished s := by
    rw [and_congr_left_iff, ← hbehind]
    exact fun hs => suffix_rest_iff h hs
  induction b using lossy.induct with
  | case1 =>
    rw [resolve_nil, List.suffix_nil]
    constructor
    · rintro ⟨rfl, hs⟩
      exact absurd rfl hs.1
    · rintro ⟨rfl, hne⟩
      exact absurd rfl hne
  | case2 x b c rest h ih =>
    rw [resolve_of_front_character h]
    exact (hrest (by simp [h]) (by rw [h]; rfl)).trans ih
  | case3 x b rest h ih =>
    rw [resolve_of_front_illFormed h]
    exact (hrest (by simp [h]) (by rw [h]; rfl)).trans ih
  | case4 x b h =>
    rw [resolve_of_front_cutShort h]
    constructor
    · rintro ⟨hsuffix, hs⟩
      refine ⟨?_, hs.1⟩
      rcases List.suffix_cons_iff.mp hsuffix with heq | htail
      · exact heq
      · obtain ⟨t, hb, ht⟩ := exists_continuation_of_front x b
        rw [hb] at htail
        have hnil := suffix_of_unfinished ht hs htail
        rw [h, Front.rest, List.suffix_nil] at hnil
        exact absurd hnil hs.1
    · rintro ⟨rfl, -⟩
      exact ⟨List.suffix_rfl, front_eq_cutShort_iff.mp h⟩

/-- What cannot be resolved stands at the end. -/
theorem carry_suffix (b : Bytes) : (resolve b).2 <:+ b := by
  by_cases h : (resolve b).2 = []
  · rw [h]
    exact List.nil_suffix
  · exact ((unfinished_suffix_iff b _).mpr ⟨rfl, h⟩).1

/-- Held back bytes, if there are any, read as one U+FFFD. -/
theorem lossy_carry_eq {decoder : Decoder} (h : decoder.Settled) :
    lossy decoder.carry = if decoder.holdsBytes then [replacement] else [] := by
  rcases lossy_carry h with hcarry | hcarry
  · simp [holdsBytes, hcarry]
  · have hne : decoder.carry ≠ [] := by
      intro hnil
      simp [hnil] at hcarry
    simp [holdsBytes, hcarry, hne]

/-- A piece makes no more characters than it has bytes, where held back bytes count as one. -/
theorem length_feed_le {decoder : Decoder} (h : decoder.Settled) (piece : Bytes) :
    (decoder.feed piece).1.length + (decoder.feed piece).2.holdsBytes.toNat ≤
      piece.length + decoder.holdsBytes.toNat := by
  have hcount {decoder : Decoder} (h : decoder.Settled) :
      decoder.holdsBytes.toNat = (lossy decoder.carry).length := by
    rw [lossy_carry_eq h]
    cases decoder.holdsBytes <;> rfl
  have hread := congrArg List.length (resolve_lossy (decoder.carry ++ piece))
  rw [List.length_append] at hread
  rw [hcount h, hcount (settled_feed decoder piece), Nat.add_comm piece.length]
  calc (decoder.feed piece).1.length + (lossy (decoder.feed piece).2.carry).length
      = (lossy (decoder.carry ++ piece)).length := hread
    _ ≤ (lossy decoder.carry).length + piece.length := length_lossy_append_le decoder.carry piece

/-- Whatever pieces a decoder was fed since it was last fresh, it holds back the suffix of their
bytes that is an unfinished sequence; there is one such suffix or none, and it has three bytes at
most. A flush reads one U+FFFD for it, or nothing, and leaves a fresh decoder. Any further piece
makes no more characters than it has bytes, where held back bytes count as one. -/
theorem carry_is_unfinished_suffix (earlier : List Call) (h : EndsFresh earlier)
    (pieces : List Bytes) :
    let decoder := ((calls {} earlier).2.calls (pieces.map .feed)).2
    (∀ s, s <:+ pieces.flatten ∧ Utf8.Unfinished s ↔ s = decoder.carry ∧ s ≠ []) ∧
    (decoder.holdsBytes = true ↔ ∃ s, s <:+ pieces.flatten ∧ Utf8.Unfinished s) ∧
    decoder.carry.length ≤ 3 ∧
    decoder.flush = (if decoder.holdsBytes then [Utf8.replacement] else [], {}) ∧
    ∀ piece, (decoder.feed piece).1.length + (decoder.feed piece).2.holdsBytes.toNat ≤
      piece.length + decoder.holdsBytes.toNat := by
  intro decoder
  have hfresh : (calls {} earlier).2 = {} := calls_of_endsFresh h
  have hcarry : decoder.carry = (resolve pieces.flatten).2 := by
    have hfed := (calls_feed settled_fresh pieces).2
    rw [List.nil_append, ← hfresh] at hfed
    exact hfed
  have hsettled : decoder.Settled := by
    rw [Settled, hcarry]
    exact resolve_carry pieces.flatten
  have hsuffix (s : Bytes) :
      s <:+ pieces.flatten ∧ Unfinished s ↔ s = decoder.carry ∧ s ≠ [] := by
    rw [hcarry]
    exact unfinished_suffix_iff pieces.flatten s
  have hholds : decoder.holdsBytes = true ↔ decoder.carry ≠ [] := by simp [holdsBytes]
  refine ⟨hsuffix, ?_, ?_, ?_, length_feed_le hsettled⟩
  · rw [hholds]
    constructor
    · intro hne
      exact ⟨decoder.carry, (hsuffix _).mpr ⟨rfl, hne⟩⟩
    · rintro ⟨s, hs⟩
      obtain ⟨rfl, hne⟩ := (hsuffix s).mp hs
      exact hne
  · by_cases hne : decoder.carry = []
    · simp [hne]
    · exact ((hsuffix _).mpr ⟨rfl, hne⟩).2.length_le
  · rw [flush, lossy_carry_eq hsettled]

/-- Behind a byte that is none and a sequence broken off, three bytes of a fourth are held back in
two pieces; a byte that breaks them off too and one that begins another make one character each. -/
theorem carry_is_unfinished_suffix_three_bytes :
    let earlier : List Call := [.feed [0x61, 0xE2], .flush]
    let pieces : List Bytes := [[0xFF, 0xE2, 0x82, 0xF0, 0x9F], [], [0x98]]
    let decoder := ((calls {} earlier).2.calls (pieces.map .feed)).2
    EndsFresh earlier ∧
      (∀ s, s <:+ pieces.flatten ∧ Utf8.Unfinished s ↔ s = [0xF0, 0x9F, 0x98]) ∧
      decoder.flush = ([Utf8.replacement], {}) ∧
      (decoder.feed [0xFF, 0xC2]).1.length +
        (decoder.feed [0xFF, 0xC2]).2.holdsBytes.toNat ≤ 3 := by
  intro earlier pieces decoder
  have hfresh : EndsFresh earlier := .inr rfl
  have hcarry : decoder.carry = [0xF0, 0x9F, 0x98] := by decide +kernel
  obtain ⟨hsuffix, -, -, hflush, hfeed⟩ := carry_is_unfinished_suffix earlier hfresh pieces
  have hholds : decoder.holdsBytes = true := by simp [holdsBytes, hcarry]
  refine ⟨hfresh, fun s => ?_, ?_, ?_⟩
  · rw [hsuffix s]
    constructor
    · rintro ⟨rfl, -⟩
      exact hcarry
    · rintro rfl
      exact ⟨hcarry.symm, by simp⟩
  · rw [show decoder.flush = _ from hflush, if_pos hholds]
  · have hlast := hfeed [0xFF, 0xC2]
    rwa [show decoder.holdsBytes = true from hholds] at hlast

end Decoder

end BenchRelay
