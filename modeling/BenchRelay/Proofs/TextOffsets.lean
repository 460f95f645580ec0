import BenchRelay.Proofs.LossyReading

/-!
# Offsets into the bytes of a text

An offset lies between two characters if it is the end of the text or the byte there continues no
sequence. At such offsets, and at no others, a text can be cut: the bytes of its parts are then the
bytes between the offsets.
-/

namespace BenchRelay.Text

open Utf8 (ByteRange)

/-- Whether an offset lies between characters: at the end, or in front of a byte that does not
continue a sequence. -/
def IsBoundary (text : Text) (offset : ℕ) : Prop :=
  offset = text.utf8.length ∨ ∃ x, text.utf8[offset]? = some x ∧ ¬ ByteRange.continuation.has x

/-- The part of a text between two offsets, unless one lies within a character or they are in the
wrong order. -/
def slice? (text : Text) (start stop : ℕ) : Option Text :=
  if start ≤ stop then (text.dropBytes? start).bind (takeBytes? (stop - start)) else none

/-- The offset of the first occurrence of a character. -/
def offsetOf? (c : Char) : Text → Option ℕ
  | [] => none
  | d :: rest => if d = c then some 0 else (offsetOf? c rest).map (d.utf8Size + ·)

theorem length_utf8_cons (c : Char) (text : Text) :
    (utf8 (c :: text)).length = c.utf8Size + text.utf8.length := by
  rw [utf8_cons, List.length_append, String.length_utf8EncodeChar]

theorem length_utf8_eq_zero_iff {text : Text} : text.utf8.length = 0 ↔ text = [] := by
  cases text with
  | nil => simp
  | cons c text =>
    have hc := c.utf8Size_pos
    rw [length_utf8_cons]
    simp only [reduceCtorEq, iff_false]
    omega

theorem dropBytes?_eq_some_iff {text rest : Text} {count : ℕ} :
    text.dropBytes? count = some rest ↔
      ∃ before, text = before ++ rest ∧ before.utf8.length = count := by
  induction text generalizing count with
  | nil =>
    constructor
    · intro h
      simp only [dropBytes?, Option.ite_none_right_eq_some, Option.some.injEq] at h
      exact ⟨[], by simp [h.2], by simp [h.1]⟩
    · rintro ⟨before, htext, rfl⟩
      obtain ⟨rfl, rfl⟩ := List.append_eq_nil_iff.mp htext.symm
      simp [dropBytes?]
  | cons c text ih =>
    have hc := c.utf8Size_pos
    constructor
    · intro h
      simp only [dropBytes?] at h
      split at h
      · next hzero => exact ⟨[], by simpa using h, by simp [hzero]⟩
      · split at h
        · next hle =>
          obtain ⟨before, rfl, hbefore⟩ := ih.mp h
          exact ⟨c :: before, rfl, by rw [length_utf8_cons]; omega⟩
        · simp at h
    · rintro ⟨before, htext, rfl⟩
      cases before with
      | nil => simp_all [dropBytes?]
      | cons d before =>
        rw [List.cons_append, List.cons.injEq] at htext
        obtain ⟨rfl, rfl⟩ := htext
        rw [length_utf8_cons, dropBytes?, if_neg (by omega), if_pos (by omega), ih]
        exact ⟨before, rfl, by omega⟩

theorem takeBytes?_eq_some_iff {text before : Text} {count : ℕ} :
    text.takeBytes? count = some before ↔
      ∃ rest, text = before ++ rest ∧ before.utf8.length = count := by
  induction text generalizing count before with
  | nil =>
    constructor
    · intro h
      simp only [takeBytes?, Option.ite_none_right_eq_some, Option.some.injEq] at h
      exact ⟨[], by simp [h.2], by simp [← h.2, h.1]⟩
    · rintro ⟨rest, htext, rfl⟩
      obtain ⟨rfl, rfl⟩ := List.append_eq_nil_iff.mp htext.symm
      simp [takeBytes?]
  | cons c text ih =>
    have hc := c.utf8Size_pos
    constructor
    · intro h
      simp only [takeBytes?] at h
      split at h
      · next hzero =>
        simp only [Option.some.injEq] at h
        exact ⟨c :: text, by simp [← h], by simp [← h, hzero]⟩
      · split at h
        · next hle =>
          obtain ⟨before, hbefore, rfl⟩ := Option.map_eq_some_iff.mp h
          obtain ⟨rest, rfl, hlength⟩ := ih.mp hbefore
          exact ⟨rest, rfl, by rw [length_utf8_cons]; omega⟩
        · simp at h
    · rintro ⟨rest, htext, rfl⟩
      cases before with
      | nil => simp [takeBytes?]
      | cons d before =>
        rw [List.cons_append, List.cons.injEq] at htext
        obtain ⟨rfl, rfl⟩ := htext
        rw [length_utf8_cons, takeBytes?, if_neg (by omega), if_pos (by omega),
          Nat.add_sub_cancel_left, ih.mpr ⟨rest, rfl, rfl⟩]
        rfl

/-- A slice is a part of the text whose neighbours make up the offsets. -/
theorem slice?_eq_some_iff {text part : Text} {start stop : ℕ} :
    text.slice? start stop = some part ↔ ∃ before behind, text = before ++ part ++ behind ∧
      before.utf8.length = start ∧ (before ++ part).utf8.length = stop := by
  constructor
  · intro h
    simp only [slice?, Option.ite_none_right_eq_some, Option.bind_eq_some_iff] at h
    obtain ⟨hle, rest, hdrop, htake⟩ := h
    obtain ⟨before, rfl, rfl⟩ := dropBytes?_eq_some_iff.mp hdrop
    obtain ⟨behind, rfl, hpart⟩ := takeBytes?_eq_some_iff.mp htake
    refine ⟨before, behind, by rw [List.append_assoc], rfl, ?_⟩
    rw [utf8_append, List.length_append]
    omega
  · rintro ⟨before, behind, rfl, rfl, rfl⟩
    rw [utf8_append, List.length_append, slice?, if_pos (Nat.le_add_right _ _), List.append_assoc,
      dropBytes?_eq_some_iff.mpr ⟨before, rfl, rfl⟩, Option.bind_some, Nat.add_sub_cancel_left]
    exact takeBytes?_eq_some_iff.mpr ⟨behind, rfl, rfl⟩

/-- The bytes of a slice are the bytes of the text between the offsets. -/
theorem utf8_of_slice? {text part : Text} {start stop : ℕ}
    (h : text.slice? start stop = some part) : part.utf8 = (text.utf8.take stop).drop start := by
  obtain ⟨before, behind, rfl, rfl, rfl⟩ := slice?_eq_some_iff.mp h
  rw [utf8_append (before ++ part) behind, List.take_left, utf8_append, List.drop_left]

/-- A character is one byte that continues no sequence, and bytes that continue one. -/
theorem exists_encode (c : Char) : ∃ x s, String.utf8EncodeChar c = x :: s ∧
    ¬ ByteRange.continuation.has x ∧ ∀ y ∈ s, ByteRange.continuation.has y := by
  obtain ⟨x, s, hs⟩ := List.exists_cons_of_ne_nil (String.utf8EncodeChar_ne_nil (c := c))
  obtain ⟨lead, hlead, hfits⟩ := Utf8.wellFormed_cons_iff.mp (hs ▸ Utf8.wellFormed_encode c)
  refine ⟨x, s, hs, fun hx => ?_, Utf8.continues_of_fits hlead List.prefix_rfl hfits⟩
  simp [Utf8.ofByte?_of_continuation hx] at hlead

/-- The offsets between characters are the lengths of what the text begins with. -/
theorem isBoundary_iff {text : Text} {offset : ℕ} : text.IsBoundary offset ↔
    ∃ before behind, text = before ++ behind ∧ before.utf8.length = offset := by
  constructor
  · intro h
    induction text generalizing offset with
    | nil =>
      obtain rfl | ⟨x, hx, -⟩ := h
      · exact ⟨[], [], rfl, rfl⟩
      · simp at hx
    | cons c text ih =>
      obtain ⟨x, s, hs, -, hcontinues⟩ := exists_encode c
      have hsize : c.utf8Size = s.length + 1 := by
        rw [← String.length_utf8EncodeChar, hs, List.length_cons]
      rcases Nat.lt_or_ge offset c.utf8Size with hlt | hge
      · -- Within the first character only its first byte does not continue a sequence.
        obtain _ | k := offset
        · exact ⟨[], c :: text, rfl, rfl⟩
        · rcases h with hend | ⟨y, hy, hstarts⟩
          · rw [length_utf8_cons] at hend
            omega
          · rw [utf8_cons, hs, List.cons_append, List.getElem?_cons_succ,
              List.getElem?_append_left (by omega)] at hy
            exact absurd (hcontinues y (List.mem_of_getElem? hy)) hstarts
      · have hlater : IsBoundary text (offset - c.utf8Size) := by
          rcases h with hend | ⟨y, hy, hstarts⟩
          · rw [length_utf8_cons] at hend
            exact .inl (by omega)
          · rw [utf8_cons, List.getElem?_append_right (by rwa [String.length_utf8EncodeChar]),
              String.length_utf8EncodeChar] at hy
            exact .inr ⟨y, hy, hstarts⟩
        obtain ⟨before, behind, rfl, hlength⟩ := ih hlater
        exact ⟨c :: before, behind, rfl, by rw [length_utf8_cons]; omega⟩
  · rintro ⟨before, behind, rfl, rfl⟩
    cases behind with
    | nil => exact .inl (by rw [List.append_nil])
    | cons c behind =>
      obtain ⟨x, s, hs, hstarts, -⟩ := exists_encode c
      refine .inr ⟨x, ?_, hstarts⟩
      rw [utf8_append, List.getElem?_append_right (Nat.le_refl _), Nat.sub_self, utf8_cons, hs]
      rfl

theorem IsBoundary.le {text : Text} {offset : ℕ} (h : text.IsBoundary offset) :
    offset ≤ text.utf8.length := by
  obtain ⟨before, behind, rfl, rfl⟩ := isBoundary_iff.mp h
  rw [utf8_append, List.length_append]
  exact Nat.le_add_right _ _

/-- Of two ways to cut a text the shorter front begins the longer one. -/
theorem prefix_of_length_le {before behind first later : Text}
    (h : before ++ behind = first ++ later) (hle : before.utf8.length ≤ first.utf8.length) :
    before <+: first := by
  obtain ⟨more, rfl, -⟩ | ⟨more, rfl, -⟩ := List.append_eq_append_iff.mp h
  · exact List.prefix_append before more
  · rw [utf8_append, List.length_append] at hle
    have hmore : more = [] := length_utf8_eq_zero_iff.mp (by omega)
    exact ⟨[], by rw [hmore, List.append_nil, List.append_nil]⟩

/-- A text can be cut behind an offset where that lies between characters, and nowhere else. -/
theorem isSome_dropBytes?_iff {text : Text} {offset : ℕ} :
    (text.dropBytes? offset).isSome ↔ text.IsBoundary offset := by
  simp only [Option.isSome_iff_exists, dropBytes?_eq_some_iff, isBoundary_iff]
  exact exists_comm

/-- A slice can be taken between offsets in order that both lie between characters, and nowhere
else. -/
theorem isSome_slice?_iff {text : Text} {start stop : ℕ} : (text.slice? start stop).isSome ↔
    start ≤ stop ∧ text.IsBoundary start ∧ text.IsBoundary stop := by
  simp only [Option.isSome_iff_exists, slice?_eq_some_iff, isBoundary_iff]
  constructor
  · rintro ⟨part, before, behind, rfl, rfl, rfl⟩
    refine ⟨?_, ⟨before, part ++ behind, by rw [List.append_assoc], rfl⟩, _, behind, rfl, rfl⟩
    rw [utf8_append, List.length_append]
    exact Nat.le_add_right _ _
  · rintro ⟨hle, ⟨before, behind, rfl, rfl⟩, first, later, hboth, rfl⟩
    obtain ⟨part, rfl⟩ := prefix_of_length_le hboth hle
    exact ⟨part, before, later, hboth, rfl, rfl⟩

example : slice? ['±', 'x'] 1 3 = none := rfl

/-- A character is found at its first occurrence. -/
theorem offsetOf?_eq_some_iff {c : Char} {text : Text} {offset : ℕ} :
    text.offsetOf? c = some offset ↔ ∃ before behind, text = before ++ c :: behind ∧
      c ∉ before ∧ before.utf8.length = offset := by
  induction text generalizing offset with
  | nil => simp [offsetOf?]
  | cons d text ih =>
    constructor
    · intro h
      rw [offsetOf?] at h
      split at h
      · next hd =>
        obtain rfl : 0 = offset := Option.some.inj h
        exact ⟨[], text, by rw [hd, List.nil_append], List.not_mem_nil, rfl⟩
      · next hd =>
        obtain ⟨n, hn, rfl⟩ := Option.map_eq_some_iff.mp h
        obtain ⟨before, behind, rfl, hfirst, rfl⟩ := ih.mp hn
        exact ⟨d :: before, behind, rfl, by simp [hfirst, Ne.symm hd], length_utf8_cons d before⟩
    · rintro ⟨before, behind, htext, hfirst, rfl⟩
      cases before with
      | nil =>
        rw [List.nil_append, List.cons.injEq] at htext
        rw [offsetOf?, if_pos htext.1]
        rfl
      | cons e before =>
        rw [List.cons_append, List.cons.injEq] at htext
        obtain ⟨rfl, rfl⟩ := htext
        simp only [List.mem_cons, not_or] at hfirst
        rw [offsetOf?, if_neg (Ne.symm hfirst.1), ih.mpr ⟨before, behind, rfl, hfirst.2, rfl⟩,
          length_utf8_cons]
        rfl

theorem offsetOf?_eq_none_iff {c : Char} {text : Text} : text.offsetOf? c = none ↔ c ∉ text := by
  induction text with
  | nil => simp [offsetOf?]
  | cons d text ih =>
    by_cases hd : d = c
    · simp [offsetOf?, hd]
    · simp [offsetOf?, hd, ih, Ne.symm hd]

end BenchRelay.Text
