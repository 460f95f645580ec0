import BenchRelay.Proofs.JsonTokens

/-!
# Reading strings

An escape is read if its letter stands for a character, or its codes do, alone or as a pair. So each
character of a string is read from what may be written for it, and the string ends at the first
quote that is no part of an escape.
-/

namespace BenchRelay.Json

/-! ### Escapes -/

theorem hexValue?_lt {c : Char} {n : Nat} (h : hexValue? c = some n) : n < 16 := by
  unfold hexValue? at h
  have hle {a b : Char} : a ≤ b ↔ a.toNat ≤ b.toNat := Iff.rfl
  split at h
  · next hc => simp [hle] at h hc; omega
  · split at h
    · next hc => simp [hle] at h hc; omega
    · split at h
      · next hc => simp [hle] at h hc; omega
      · simp at h

theorem FourHex.lt {code : Nat} {digits : Text} (h : FourHex code digits) : code < 0x10000 := by
  obtain ⟨ha, hb, hc, hd⟩ := h
  have := hexValue?_lt ha
  have := hexValue?_lt hb
  have := hexValue?_lt hc
  have := hexValue?_lt hd
  omega

theorem readFourHex_eq_ok_iff {text rest : Text} {code : Nat} :
    readFourHex text = .ok (code, rest) ↔
      ∃ digits, FourHex code digits ∧ text = digits ++ rest := by
  constructor
  · intro h
    unfold readFourHex at h
    split at h
    · split at h
      · next ha hb hc hd =>
        cases h
        exact ⟨_, .digits ha hb hc hd, rfl⟩
      · simp at h
    · simp at h
  · rintro ⟨_, ⟨ha, hb, hc, hd⟩, rfl⟩
    simp [readFourHex, ha, hb, hc, hd]

theorem readFourHex_append {code : Nat} {digits : Text} (h : FourHex code digits) (rest : Text) :
    readFourHex (digits ++ rest) = .ok (code, rest) :=
  readFourHex_eq_ok_iff.mpr ⟨digits, h, rfl⟩

theorem toNat_ofNat {n : Nat} (h : n.isValidChar) : (Char.ofNat n).toNat = n := by
  rw [Char.ofNat, dif_pos h]
  rfl

theorem not_surrogate (c : Char) :
    isHighSurrogate c.toNat = false ∧ isLowSurrogate c.toNat = false := by
  have hvalid : c.toNat < 0xD800 ∨ 0xDFFF < c.toNat ∧ c.toNat < 0x110000 := c.valid
  simp only [isHighSurrogate, isLowSurrogate, Bool.and_eq_false_iff, decide_eq_false_iff_not]
  omega

/-- A pair of codes stands for its character. -/
theorem toNat_ofSurrogates {high low : Nat} (hhigh : isHighSurrogate high)
    (hlow : isLowSurrogate low) :
    (ofSurrogates high low).toNat = 0x10000 + (high - 0xD800) * 0x400 + (low - 0xDC00) := by
  simp only [isHighSurrogate, isLowSurrogate, Bool.and_eq_true, decide_eq_true_eq] at hhigh hlow
  apply toNat_ofNat
  right
  omega

theorem escaped?_eq_some_iff {e c : Char} : escaped? e = some c ↔ (e, c) ∈ letters := by
  constructor
  · intro h
    unfold escaped? at h
    split at h <;> simp_all [letters, eq_comm]
  · intro h
    simp only [letters, List.mem_cons, Prod.mk.injEq, List.not_mem_nil, or_false] at h
    rcases h with ⟨rfl, rfl⟩ | ⟨rfl, rfl⟩ | ⟨rfl, rfl⟩ | ⟨rfl, rfl⟩ | ⟨rfl, rfl⟩ | ⟨rfl, rfl⟩ |
      ⟨rfl, rfl⟩ | ⟨rfl, rfl⟩ <;> rfl

/-- What a code point is read from can be written behind a backslash and a `u`. -/
theorem escape_of_readCodePoint {text rest : Text} {c : Char}
    (h : readCodePoint text = .ok (c, rest)) : ∃ e, Escape c ('u' :: e) ∧ text = e ++ rest := by
  rw [readCodePoint, bind_eq_ok_iff] at h
  obtain ⟨⟨code, behind⟩, hcode, h⟩ := h
  obtain ⟨digits, hdigits, rfl⟩ := readFourHex_eq_ok_iff.mp hcode
  dsimp only at h
  split at h
  · simp at h
  next hlow =>
  split at h
  · next hhigh =>
    rw [bind_eq_ok_iff] at h
    obtain ⟨behind, hword, h⟩ := h
    rw [readWord_eq_ok_iff] at hword
    rw [bind_eq_ok_iff] at h
    obtain ⟨⟨low, behind⟩, hsecond, h⟩ := h
    obtain ⟨second, hdigits', rfl⟩ := readFourHex_eq_ok_iff.mp hsecond
    dsimp only at h
    split at h
    · next hlow =>
      simp only [Except.ok.injEq, Prod.mk.injEq] at h
      obtain ⟨rfl, rfl⟩ := h
      exact ⟨_, .pair hhigh hlow (toNat_ofSurrogates hhigh hlow) hdigits hdigits',
        by simp [hword]⟩
    · simp at h
  · next hhigh =>
    cases h
    have hvalid : code.isValidChar := by
      have := hdigits.lt
      simp only [isHighSurrogate, isLowSurrogate, Bool.and_eq_true, decide_eq_true_eq] at hlow hhigh
      unfold Nat.isValidChar
      omega
    exact ⟨digits, .code (by rwa [toNat_ofNat hvalid]), rfl⟩

theorem escape_of_readEscape {text rest : Text} {c : Char} (h : readEscape text = .ok (c, rest)) :
    ∃ e, Escape c e ∧ text = e ++ rest := by
  unfold readEscape at h
  split at h
  · simp at h
  · obtain ⟨e, he, rfl⟩ := escape_of_readCodePoint h
    exact ⟨_, he, rfl⟩
  · split at h
    · next hletter =>
      cases h
      exact ⟨_, .letter (escaped?_eq_some_iff.mp hletter), rfl⟩
    · simp at h

/-- Every escape is read back. -/
theorem readEscape_of_escape {c : Char} {e : Text} (h : Escape c e) (rest : Text) :
    readEscape (e ++ rest) = .ok (c, rest) := by
  cases h with
  | letter h =>
    have hletter := escaped?_eq_some_iff.mpr h
    have hcode : escaped? 'u' = none := rfl
    rw [List.cons_append, List.nil_append, readEscape]
    · simp [hletter]
    · rintro rfl
      simp [hcode] at hletter
  | code h =>
    simp [readEscape, readCodePoint, readFourHex_append h, not_surrogate, Char.ofNat_toNat]
  | @pair high low first second hhigh hlow hcode hfirst hsecond =>
    have hchar : ofSurrogates high low = c := by
      rw [← Char.ofNat_toNat c, hcode, ofSurrogates]
    have hnotLow : isLowSurrogate high = false := by
      simp only [isHighSurrogate, isLowSurrogate, Bool.and_eq_true, Bool.and_eq_false_iff,
        decide_eq_true_eq, decide_eq_false_iff_not] at hhigh ⊢
      omega
    simp [readEscape, readCodePoint, readWord, readFourHex_append hfirst,
      readFourHex_append hsecond, hhigh, hlow, hnotLow, hchar]

/-! ### Strings and names -/

theorem quoted_of_readStringFrom {fuel : Nat} {seen text rest read : Text}
    (h : readStringFrom fuel seen text = .ok (read, rest)) :
    ∃ content written, Quoted content written ∧ read = seen.reverse ++ content ∧
      text = written ++ '"' :: rest := by
  induction fuel generalizing seen text with
  | zero => simp [readStringFrom] at h
  | succ fuel ih =>
    cases text with
    | nil => simp [readStringFrom] at h
    | cons c text =>
      rw [readStringFrom] at h
      split at h
      · next hquote =>
        cases h
        exact ⟨[], [], .nil, by simp, by simp [hquote]⟩
      next hquote =>
      split at h
      · next hslash =>
        rw [bind_eq_ok_iff] at h
        obtain ⟨⟨d, behind⟩, hescape, h⟩ := h
        obtain ⟨e, he, rfl⟩ := escape_of_readEscape hescape
        obtain ⟨content, written, hwritten, rfl, rfl⟩ := ih h
        exact ⟨_, _, .escape he hwritten, by simp, by simp [hslash]⟩
      next hslash =>
      split at h
      · simp at h
      · next hcontrol =>
        obtain ⟨content, written, hwritten, rfl, rfl⟩ := ih h
        exact ⟨_, _, .plain hquote hslash (by omega) hwritten, by simp, by simp⟩

theorem readStringFrom_of_quoted {content written : Text} (h : Quoted content written) {fuel : Nat}
    (hfuel : written.length < fuel) (seen rest : Text) :
    readStringFrom fuel seen (written ++ '"' :: rest) = .ok (seen.reverse ++ content, rest) := by
  induction h generalizing fuel seen with
  | nil =>
    obtain ⟨fuel, rfl⟩ := Nat.exists_eq_add_of_lt hfuel
    simp [readStringFrom]
  | plain hquote hslash hcontrol _ ih =>
    simp only [List.length_cons] at hfuel
    obtain ⟨fuel, rfl⟩ : ∃ later, fuel = later + 1 := ⟨fuel - 1, by omega⟩
    rw [List.cons_append, readStringFrom, if_neg hquote, if_neg hslash, if_neg (by omega),
      ih (by omega)]
    simp
  | escape he _ ih =>
    simp only [List.cons_append, List.length_cons, List.length_append] at hfuel
    obtain ⟨fuel, rfl⟩ : ∃ later, fuel = later + 1 := ⟨fuel - 1, by omega⟩
    rw [List.cons_append, List.cons_append, List.append_assoc, readStringFrom, if_neg (by decide),
      if_pos rfl, readEscape_of_escape he, ok_bind]
    simp only
    rw [ih (by omega)]
    simp

/-- A string is read up to the quote that ends it. -/
theorem readString_eq_ok_iff {text read rest : Text} :
    readString text = .ok (read, rest) ↔
      ∃ written, Quoted read written ∧ text = written ++ '"' :: rest := by
  constructor
  · intro h
    obtain ⟨content, written, hwritten, rfl, rfl⟩ := quoted_of_readStringFrom h
    exact ⟨written, hwritten, rfl⟩
  · rintro ⟨written, hwritten, rfl⟩
    exact readStringFrom_of_quoted hwritten (by simp only [List.length_append]; omega) [] rest

theorem readString_append {read written : Text} (h : Quoted read written) (rest : Text) :
    readString (written ++ '"' :: rest) = .ok (read, rest) :=
  readString_eq_ok_iff.mpr ⟨written, h, rfl⟩

/-- A name is read together with its colon and the blanks on both sides of it. -/
theorem readName_eq_ok_iff {text name rest : Text} :
    readName text = .ok (name, rest) ↔
      ∃ start, NameText name start ∧ text = start ++ rest ∧ Stops isSpace rest := by
  constructor
  · intro h
    unfold readName at h
    split at h
    · rw [bind_eq_ok_iff] at h
      obtain ⟨⟨read, behind⟩, hread, h⟩ := h
      obtain ⟨written, hwritten, rfl⟩ := readString_eq_ok_iff.mp hread
      rw [bind_eq_ok_iff] at h
      obtain ⟨later, hword, h⟩ := h
      cases h
      obtain ⟨before, hbefore, hbehind⟩ := exists_blank behind
      obtain ⟨after, hafter, hlater⟩ := exists_blank later
      rw [readWord_eq_ok_iff.mp hword, hlater] at hbehind
      exact ⟨_, .colon hwritten hbefore hafter, by simp [hbehind], stops_skipSpaces later⟩
    · simp at h
  · rintro ⟨_, ⟨hwritten, hbefore, hafter⟩, rfl, hstops⟩
    have hcolon {text : Text} : Stops isSpace (':' :: text) := stops_isSpace_cons (by decide) text
    simp only [List.cons_append, List.append_assoc, readName]
    rw [readString_append hwritten, ok_bind]
    simp [skipSpaces_append hbefore hcolon, readWord, skipSpaces_append hafter hstops]

theorem readName_append {name start rest : Text} (h : NameText name start)
    (hrest : Stops isSpace rest) : readName (start ++ rest) = .ok (name, rest) :=
  readName_eq_ok_iff.mpr ⟨start, h, rfl, hrest⟩

end BenchRelay.Json
