import BenchRelay.Proofs.Utf8Table

/-!
# What a lossy reading is

The reading of a byte stream as the Unicode standard describes it, with no way to compute it: a
well-formed sequence at the front is its character, and where there is none the maximal subpart of
the ill-formed bytes is one U+FFFD. Every stream has exactly one such reading, and `lossy` computes
it.
-/

namespace BenchRelay.Utf8

/-- Bytes that begin some well-formed sequence. -/
def Begins (s : Bytes) : Prop := ∃ more, WellFormed (s ++ more)

/-- The maximal subpart at the front of a stream that begins with no well-formed sequence: the
longest part there that begins one, or a single byte. -/
structure IsMaximalSubpart (s b : Bytes) : Prop where
  front : s <+: b
  unconvertible : ∀ t, t <+: b → ¬ WellFormed t
  candidate : s.length = 1 ∨ s ≠ [] ∧ Begins s
  longest : ∀ t, t <+: b → Begins t → t.length ≤ s.length

/-- A text is the lossy reading of a byte stream. -/
inductive Reads : Bytes → Text → Prop
  | nil : Reads [] []
  | character {s rest : Bytes} {c : Char} {text : Text} (wellFormed : WellFormed s)
      (encodes : String.utf8EncodeChar c = s) (later : Reads rest text) :
      Reads (s ++ rest) (c :: text)
  | illFormed {s rest : Bytes} {text : Text} (subpart : IsMaximalSubpart s (s ++ rest))
      (later : Reads rest text) : Reads (s ++ rest) (replacement :: text)

/-- No sequence of the table is empty. -/
theorem not_wellFormed_nil : ¬ WellFormed [] := by
  rintro ⟨row, hrow, hfits⟩
  cases hfits
  simp [table] at hrow

theorem wellFormed_of_lead {x : UInt8} {s : Bytes} {lead : Lead}
    (hlead : Lead.ofByte? x = some lead) (hs : Fits lead.expected s) : WellFormed (x :: s) :=
  wellFormed_cons_iff.mpr ⟨lead, hlead, hs⟩

/-- The ranges that a first byte asks for all hold bytes. -/
theorem exists_fits_of_lead {x : UInt8} {lead : Lead} {row later : List ByteRange}
    (hlead : Lead.ofByte? x = some lead) (hexpected : lead.expected = row ++ later) :
    ∃ more, Fits later more := by
  have hhas : ∀ row ∈ table, ∀ range ∈ row, range.has (UInt8.ofNat range.low) := by decide
  obtain ⟨first, htable, -⟩ := ofByte?_eq_some_iff.mp hlead
  refine ⟨later.map fun range => UInt8.ofNat range.low, ?_⟩
  unfold Fits
  rw [List.forall₂_map_right_iff, List.forall₂_same]
  intro range hrange
  exact hhas _ htable range (by simp [hexpected, hrange])

/-- A sequence begins one of the table if its first byte leads and what is there of the rest
fits. -/
theorem begins_cons_iff {x : UInt8} {s : Bytes} :
    Begins (x :: s) ↔ ∃ lead row later, Lead.ofByte? x = some lead ∧
      lead.expected = row ++ later ∧ Fits row s := by
  constructor
  · rintro ⟨more, hmore⟩
    obtain ⟨lead, hlead, hfits⟩ := wellFormed_cons_iff.mp hmore
    exact ⟨lead, _, _, hlead, (List.take_append_drop s.length _).symm,
      List.forall₂_take_append _ _ _ hfits⟩
  · rintro ⟨lead, row, later, hlead, hexpected, hs⟩
    obtain ⟨more, hmore⟩ := exists_fits_of_lead hlead hexpected
    refine ⟨more, wellFormed_of_lead hlead ?_⟩
    rw [hexpected]
    exact List.rel_append hs hmore

theorem fits_of_continued_character {bits : ℕ} {expected : List ByteRange} {b rest : Bytes}
    {c : Char} (h : continued bits expected b = .character c rest) :
    ∃ s, b = s ++ rest ∧ Fits expected s ∧ c = Char.ofNat (codePoint bits s) := by
  induction expected generalizing bits b with
  | nil =>
    simp only [continued, Front.character.injEq] at h
    exact ⟨[], by simp [h.2], .nil, h.1.symm⟩
  | cons range expected ih =>
    cases b with
    | nil => simp [continued] at h
    | cons x b =>
      simp only [continued] at h
      split at h
      · next hx =>
        obtain ⟨s, rfl, hs, rfl⟩ := ih h
        exact ⟨x :: s, rfl, .cons hx hs, rfl⟩
      · simp at h

/-- A sequence is broken off by a byte outside the range that comes next. -/
theorem break_of_continued_illFormed {bits : ℕ} {expected : List ByteRange} {b rest : Bytes}
    (h : continued bits expected b = .illFormed rest) :
    ∃ row range later s y more, expected = row ++ range :: later ∧ b = s ++ y :: more ∧
      rest = y :: more ∧ Fits row s ∧ ¬ range.has y := by
  induction expected generalizing bits b with
  | nil => simp [continued] at h
  | cons range expected ih =>
    cases b with
    | nil => simp [continued] at h
    | cons x b =>
      simp only [continued] at h
      split at h
      · next hx =>
        obtain ⟨row, next, later, s, y, more, rfl, rfl, rfl, hs, hy⟩ := ih h
        exact ⟨range :: row, next, later, x :: s, y, more, rfl, rfl, rfl, .cons hx hs, hy⟩
      · next hx =>
        simp only [Front.illFormed.injEq] at h
        exact ⟨[], range, expected, [], x, b, rfl, rfl, h.symm, .nil, hx⟩

theorem fits_of_continued_cutShort {bits : ℕ} {expected : List ByteRange} {b : Bytes}
    (h : continued bits expected b = .cutShort) :
    ∃ row range later, expected = row ++ range :: later ∧ Fits row b := by
  induction expected generalizing bits b with
  | nil => simp [continued] at h
  | cons range expected ih =>
    cases b with
    | nil => exact ⟨[], range, expected, rfl, .nil⟩
    | cons x b =>
      simp only [continued] at h
      split at h
      · next hx =>
        obtain ⟨row, next, later, rfl, hb⟩ := ih h
        exact ⟨range :: row, next, later, rfl, .cons hx hb⟩
      · simp at h

/-- What fits further than a break has to hold the breaking byte. -/
theorem has_of_fits {row row' later : List ByteRange} {range : ByteRange} {s t more : Bytes}
    {y : UInt8} (hs : Fits row s) (ht : Fits row' t) (hrow : row' <+: row ++ range :: later)
    (hfront : t <+: s ++ y :: more) (hlength : s.length < t.length) : range.has y := by
  -- Both fill the same ranges with the same bytes until the shorter one is at its end.
  induction hs generalizing row' t with
  | nil =>
    cases ht with
    | nil => simp at hlength
    | cons hz _ =>
      simp only [List.nil_append, List.cons_prefix_cons] at hrow hfront
      rw [← hrow.1, ← hfront.1]
      exact hz
  | cons _ _ ih =>
    cases ht with
    | nil => simp at hlength
    | cons _ ht =>
      simp only [List.cons_append, List.cons_prefix_cons] at hrow hfront
      exact ih ht hrow.2 hfront.2 (by simpa using hlength)

/-- An encoded character is found at the front of every stream that begins with it. -/
theorem front_of_encode {c : Char} {x : UInt8} {s : Bytes} (h : String.utf8EncodeChar c = x :: s)
    (rest : Bytes) : front x (s ++ rest) = .character c rest := by
  obtain ⟨lead, hlead, hs⟩ := wellFormed_cons_iff.mp (h ▸ wellFormed_encode c)
  have hc : Char.ofNat (codePoint lead.bits s) = c :=
    encode_injective ((encode_codePoint hlead hs).trans h.symm)
  simp only [front, hlead, continued_of_fits hs, hc]

/-- What is found as a character is the encoding of it. -/
theorem encode_of_front {x : UInt8} {b rest : Bytes} {c : Char}
    (h : front x b = .character c rest) : x :: b = String.utf8EncodeChar c ++ rest := by
  unfold front at h
  split at h
  · simp at h
  · next lead hlead =>
    obtain ⟨s, rfl, hs, rfl⟩ := fits_of_continued_character h
    rw [encode_codePoint hlead hs, List.cons_append]

/-- What begins a sequence at the front of a stream is led by the first byte there. -/
theorem exists_lead_of_begins {x y : UInt8} {b t : Bytes} (hfront : y :: t <+: x :: b)
    (h : Begins (y :: t)) : ∃ lead row, Lead.ofByte? x = some lead ∧ row <+: lead.expected ∧
      t <+: b ∧ Fits row t := by
  obtain ⟨rfl, htail⟩ := List.cons_prefix_cons.mp hfront
  obtain ⟨lead, row, later, hlead, hexpected, hfits⟩ := begins_cons_iff.mp h
  exact ⟨lead, row, hlead, ⟨later, hexpected.symm⟩, htail, hfits⟩

/-- A sequence at the front of a stream is led by the first byte there. -/
theorem exists_lead_of_wellFormed {x : UInt8} {b t : Bytes} (hfront : t <+: x :: b)
    (h : WellFormed t) : ∃ lead s, Lead.ofByte? x = some lead ∧ s <+: b ∧
      Fits lead.expected s := by
  obtain _ | ⟨y, t⟩ := t
  · exact absurd h not_wellFormed_nil
  · obtain ⟨rfl, htail⟩ := List.cons_prefix_cons.mp hfront
    obtain ⟨lead, hlead, hfits⟩ := wellFormed_cons_iff.mp h
    exact ⟨lead, t, hlead, htail, hfits⟩

/-- A byte that leads no sequence is a maximal subpart by itself. -/
theorem isMaximalSubpart_of_no_lead {x : UInt8} (hlead : Lead.ofByte? x = none) (b : Bytes) :
    IsMaximalSubpart [x] (x :: b) := by
  refine ⟨by simp, ?_, .inl rfl, ?_⟩
  · intro t ht hwell
    obtain ⟨lead, _, hsome, -⟩ := exists_lead_of_wellFormed ht hwell
    simp [hlead] at hsome
  · rintro (_ | ⟨y, t⟩) ht hbegins
    · simp
    · obtain ⟨lead, _, hsome, -⟩ := exists_lead_of_begins ht hbegins
      simp [hlead] at hsome

/-- What a byte breaks off is a maximal subpart. -/
theorem isMaximalSubpart_of_break {x y : UInt8} {lead : Lead} {row later : List ByteRange}
    {range : ByteRange} {s more : Bytes} (hlead : Lead.ofByte? x = some lead)
    (hexpected : lead.expected = row ++ range :: later) (hs : Fits row s) (hy : ¬ range.has y) :
    IsMaximalSubpart (x :: s) (x :: (s ++ y :: more)) := by
  refine ⟨by simp, ?_, .inr ⟨by simp, ?_⟩, ?_⟩
  · intro t ht hwell
    obtain ⟨lead', t, hsome, htail, hfits⟩ := exists_lead_of_wellFormed ht hwell
    obtain rfl : lead = lead' := Option.some.inj (hlead.symm.trans hsome)
    rw [hexpected] at hfits
    refine hy (has_of_fits hs hfits List.prefix_rfl htail ?_)
    rw [← hfits.length_eq, ← hs.length_eq]
    simp
  · exact begins_cons_iff.mpr ⟨lead, row, _, hlead, hexpected, hs⟩
  · rintro (_ | ⟨z, t⟩) ht hbegins
    · simp
    · obtain ⟨lead', row', hsome, hrow, htail, hfits⟩ := exists_lead_of_begins ht hbegins
      obtain rfl : lead = lead' := Option.some.inj (hlead.symm.trans hsome)
      by_contra hlength
      exact hy (has_of_fits hs hfits (hexpected ▸ hrow) htail (by simpa using hlength))

/-- What is found as ill-formed is a maximal subpart. -/
theorem isMaximalSubpart_of_front_illFormed {x : UInt8} {b rest : Bytes}
    (h : front x b = .illFormed rest) : ∃ s, x :: b = s ++ rest ∧ IsMaximalSubpart s (x :: b) := by
  unfold front at h
  split at h
  · next hlead =>
    simp only [Front.illFormed.injEq] at h
    exact ⟨[x], by rw [h]; rfl, isMaximalSubpart_of_no_lead hlead b⟩
  · next lead hlead =>
    obtain ⟨row, range, later, s, y, more, hexpected, rfl, rfl, hs, hy⟩ :=
      break_of_continued_illFormed h
    exact ⟨x :: s, rfl, isMaximalSubpart_of_break hlead hexpected hs hy⟩

/-- What is cut short begins a sequence and holds none. -/
theorem isMaximalSubpart_of_front_cutShort {x : UInt8} {b : Bytes} (h : front x b = .cutShort) :
    Begins (x :: b) ∧ IsMaximalSubpart (x :: b) (x :: b) := by
  unfold front at h
  split at h
  · simp at h
  · next lead hlead =>
    obtain ⟨row, range, later, hexpected, hb⟩ := fits_of_continued_cutShort h
    have hbegins : Begins (x :: b) := begins_cons_iff.mpr ⟨lead, row, _, hlead, hexpected, hb⟩
    refine ⟨hbegins, ⟨List.prefix_rfl, ?_, .inr ⟨by simp, hbegins⟩, fun t ht _ => ht.length_le⟩⟩
    intro t ht hwell
    obtain ⟨lead', t, hsome, htail, hfits⟩ := exists_lead_of_wellFormed ht hwell
    obtain rfl : lead = lead' := Option.some.inj (hlead.symm.trans hsome)
    have hrow := hfits.length_eq
    have hshort := htail.length_le
    rw [hexpected, List.length_append, List.length_cons, hb.length_eq] at hrow
    omega

/-- The computed reading is a reading. -/
theorem reads_lossy (b : Bytes) : Reads b (lossy b) := by
  fun_induction lossy b with
  | case1 => exact .nil
  | case2 x b c rest h ih =>
    rw [encode_of_front h]
    exact .character (wellFormed_encode c) rfl ih
  | case3 x b rest h ih =>
    obtain ⟨s, hs, hsubpart⟩ := isMaximalSubpart_of_front_illFormed h
    rw [hs] at hsubpart ⊢
    exact .illFormed hsubpart ih
  | case4 x b h =>
    have hsubpart := (isMaximalSubpart_of_front_cutShort h).2
    have hreads := @Reads.illFormed (x :: b) [] [] (by rwa [List.append_nil]) .nil
    rwa [List.append_nil] at hreads

theorem IsMaximalSubpart.length_pos {s b : Bytes} (h : IsMaximalSubpart s b) : 0 < s.length := by
  rcases h.candidate with hone | ⟨hne, -⟩
  · omega
  · exact List.length_pos_iff.mpr hne

/-- A stream has one maximal subpart at its front. -/
theorem IsMaximalSubpart.unique {s t b : Bytes} (hs : IsMaximalSubpart s b)
    (ht : IsMaximalSubpart t b) : s = t := by
  have hle {s t : Bytes} (hs : IsMaximalSubpart s b) (ht : IsMaximalSubpart t b) :
      s.length ≤ t.length := by
    rcases hs.candidate with hone | ⟨-, hbegins⟩
    · exact hone ▸ ht.length_pos
    · exact ht.longest s hs.front hbegins
  exact (List.prefix_of_prefix_length_le hs.front ht.front (hle hs ht)).eq_of_length_le (hle ht hs)

theorem lossy_of_front_character {x : UInt8} {b rest : Bytes} {c : Char}
    (h : front x b = .character c rest) : lossy (x :: b) = c :: lossy rest := by
  rw [lossy]
  split <;> simp_all

theorem lossy_of_front_illFormed {x : UInt8} {b rest : Bytes}
    (h : front x b = .illFormed rest) : lossy (x :: b) = replacement :: lossy rest := by
  rw [lossy]
  split <;> simp_all

theorem lossy_of_front_cutShort {x : UInt8} {b : Bytes} (h : front x b = .cutShort) :
    lossy (x :: b) = [replacement] := by
  rw [lossy]
  split <;> simp_all

@[simp] theorem lossy_nil : lossy [] = [] := by rw [lossy]

@[simp] theorem lossy_encode_append (c : Char) (rest : Bytes) :
    lossy (String.utf8EncodeChar c ++ rest) = c :: lossy rest := by
  obtain ⟨x, s, hs⟩ := List.exists_cons_of_ne_nil (String.utf8EncodeChar_ne_nil (c := c))
  rw [hs, List.cons_append, lossy_of_front_character (front_of_encode hs rest)]

/-- Encoded text reads as itself. -/
@[simp] theorem lossy_utf8 (text : Text) : lossy text.utf8 = text := by
  induction text with
  | nil => simp
  | cons c text ih => simp [ih]

/-- A maximal subpart is found as ill-formed, or as cut short where nothing stands behind it. -/
theorem front_of_isMaximalSubpart {x : UInt8} {s rest : Bytes}
    (h : IsMaximalSubpart (x :: s) (x :: (s ++ rest))) :
    front x (s ++ rest) = .illFormed rest ∨ front x (s ++ rest) = .cutShort ∧ rest = [] := by
  cases hfront : front x (s ++ rest) with
  | character c rest' =>
    have hwell := h.unconvertible (String.utf8EncodeChar c)
    rw [encode_of_front hfront] at hwell
    exact absurd (wellFormed_encode c) (hwell (List.prefix_append _ _))
  | illFormed rest' =>
    obtain ⟨t, ht, hsubpart⟩ := isMaximalSubpart_of_front_illFormed hfront
    obtain rfl := h.unique hsubpart
    obtain rfl : rest = rest' := by simpa using ht
    exact .inl rfl
  | cutShort =>
    have hwhole := h.unique (isMaximalSubpart_of_front_cutShort hfront).2
    exact .inr ⟨rfl, by simpa using hwhole⟩

/-- A maximal subpart reads as one U+FFFD. -/
theorem lossy_of_isMaximalSubpart {s rest : Bytes} (h : IsMaximalSubpart s (s ++ rest)) :
    lossy (s ++ rest) = replacement :: lossy rest := by
  obtain ⟨x, s, rfl⟩ := List.exists_cons_of_length_pos h.length_pos
  obtain hfront | ⟨hfront, rfl⟩ := front_of_isMaximalSubpart h
  · exact lossy_of_front_illFormed hfront
  · rw [List.cons_append, lossy_of_front_cutShort hfront, lossy_nil]

/-- A stream has one reading, and it is the computed one. -/
theorem reads_iff {b : Bytes} {text : Text} : Reads b text ↔ text = lossy b := by
  constructor
  · intro h
    induction h with
    | nil => rw [lossy_nil]
    | character _ hencodes _ ih => rw [← hencodes, lossy_encode_append, ih]
    | illFormed hsubpart _ ih => rw [lossy_of_isMaximalSubpart hsubpart, ih]
  · rintro rfl
    exact reads_lossy b

end BenchRelay.Utf8
