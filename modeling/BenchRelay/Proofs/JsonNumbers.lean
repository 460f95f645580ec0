import BenchRelay.Proofs.JsonTokens

/-!
# Reading numbers

Digits are read as far as they go, and a part of a number begins where the one before it ends. A
number is therefore read back only where the text behind it does not go on as a number; whether it
is finite is judged at its end.
-/

namespace BenchRelay.Json

theorem readSomeDigits_eq_ok_iff {text rest : Text} {values : List Nat} :
    readSomeDigits text = .ok (values, rest) ↔
      ∃ digits, Digits values digits ∧ text = digits ++ rest ∧ Stops Char.isDigit rest := by
  constructor
  · intro h
    unfold readSomeDigits at h
    split at h
    · simp at h
    · next hsome =>
      simp only [Except.ok.injEq, readDigits, Prod.mk.injEq] at h
      obtain ⟨rfl, rfl⟩ := h
      refine ⟨text.takeWhile Char.isDigit, ⟨fun _ hc => List.mem_takeWhile_imp hc, rfl, ?_⟩,
        List.takeWhile_append_dropWhile.symm, stops_dropWhile⟩
      intro hnil
      exact hsome _ (by rw [readDigits, hnil, List.map_nil])
  · rintro ⟨digits, ⟨hdigits, rfl, hne⟩, rfl, hstops⟩
    obtain ⟨htake, hdrop⟩ := takeWhile_append_of_stops hdigits hstops
    rw [readSomeDigits, readDigits, htake, hdrop]
    split
    · next h =>
      simp only [Prod.mk.injEq, List.map_eq_nil_iff] at h
      exact absurd h.1 hne
    · rfl

theorem readWhole_eq_ok_iff {text rest : Text} {values : List Nat} :
    readWhole text = .ok (values, rest) ↔
      ∃ digits, Whole values digits ∧ text = digits ++ rest ∧ Stops Char.isDigit rest := by
  constructor
  · intro h
    rw [readWhole, bind_eq_ok_iff] at h
    obtain ⟨⟨read, behind⟩, hread, h⟩ := h
    obtain ⟨digits, hdigits, rfl, hstops⟩ := readSomeDigits_eq_ok_iff.mp hread
    dsimp only at h
    split at h
    · simp at h
    · next halone =>
      cases h
      exact ⟨digits, ⟨hdigits, by simpa using halone⟩, rfl, hstops⟩
  · rintro ⟨digits, ⟨hdigits, halone⟩, rfl, hstops⟩
    have hread := readSomeDigits_eq_ok_iff.mpr ⟨digits, hdigits, rfl, hstops⟩
    simpa [readWhole, hread] using halone

/-- A character that a number behind its first digits may go on with. -/
def continuesNumber (c : Char) : Bool := c.isDigit || c == '.' || c == 'e' || c == 'E'

theorem Stops.of_continuesNumber {text : Text} (h : Stops continuesNumber text) :
    Stops Char.isDigit text ∧ Stops (· == '.') text ∧
      Stops (fun c => c == 'e' || c == 'E') text := by
  cases text with
  | nil => simp
  | cons c text => simpa [continuesNumber, and_assoc] using h

theorem fraction_of_readFraction {text rest : Text} {values : List Nat}
    (h : readFraction text = .ok (values, rest)) :
    ∃ written, Fraction values written ∧ text = written ++ rest := by
  unfold readFraction at h
  split at h
  · obtain ⟨digits, hdigits, rfl, -⟩ := readSomeDigits_eq_ok_iff.mp h
    exact ⟨_, .point hdigits, rfl⟩
  · cases h
    exact ⟨[], .none, rfl⟩

theorem readFraction_append {values : List Nat} {written rest : Text} (h : Fraction values written)
    (hdigit : Stops Char.isDigit rest) (hpoint : Stops (· == '.') rest) :
    readFraction (written ++ rest) = .ok (values, rest) := by
  cases h with
  | none =>
    rw [List.nil_append]
    unfold readFraction
    split
    · simp at hpoint
    · rfl
  | point h => exact readSomeDigits_eq_ok_iff.mpr ⟨_, h, rfl, hdigit⟩

/-- What is taken for the sign of an exponent is one. -/
theorem sign_of_match {text rest : Text} {negative : Bool}
    (h : (match text with
      | '-' :: rest => (true, rest)
      | '+' :: rest => (false, rest)
      | rest => (false, rest)) = (negative, rest)) :
    ∃ sign, Sign negative sign ∧ text = sign ++ rest := by
  split at h <;> simp only [Prod.mk.injEq] at h <;> obtain ⟨rfl, rfl⟩ := h
  · exact ⟨_, .minus, rfl⟩
  · exact ⟨_, .plus, rfl⟩
  · exact ⟨_, .none, rfl⟩

theorem exponent_of_readExponent {text rest : Text} {exponent : Int}
    (h : readExponent text = .ok (exponent, rest)) :
    ∃ written, Exponent exponent written ∧ text = written ++ rest := by
  unfold readExponent at h
  split at h
  · next e behind =>
    split at h
    · next he =>
      split at h
      next hmatch =>
        obtain ⟨sign, hsign, rfl⟩ := sign_of_match hmatch
        rw [bind_eq_ok_iff] at h
        obtain ⟨⟨values, behind⟩, hread, h⟩ := h
        obtain ⟨digits, hdigits, rfl, -⟩ := readSomeDigits_eq_ok_iff.mp hread
        cases h
        exact ⟨_, .power he hsign hdigits, by simp⟩
    · cases h
      exact ⟨[], .none, rfl⟩
  · cases h
    exact ⟨[], .none, rfl⟩

/-- Digits begin with a digit, not with a sign. -/
theorem Digits.exists_cons {values : List Nat} {text : Text} (h : Digits values text) :
    ∃ c later, text = c :: later ∧ c.isDigit ∧ c ≠ '-' ∧ c ≠ '+' := by
  obtain ⟨hdigit, -, hne⟩ := h
  obtain ⟨c, later, rfl⟩ := List.exists_cons_of_ne_nil hne
  have hc := hdigit c (by simp)
  refine ⟨c, later, rfl, hc, ?_, ?_⟩ <;> rintro rfl <;> simp at hc

theorem readExponent_append {exponent : Int} {written rest : Text} (h : Exponent exponent written)
    (hdigit : Stops Char.isDigit rest) (hletter : Stops (fun c => c == 'e' || c == 'E') rest) :
    readExponent (written ++ rest) = .ok (exponent, rest) := by
  cases h with
  | none =>
    cases rest with
    | nil => rfl
    | cons c rest =>
      simp only [stops_cons_iff, Bool.or_eq_false_iff, beq_eq_false_iff_ne] at hletter
      simp [readExponent, hletter]
  | @power e negative sign text values he hsign h =>
    have hread := readSomeDigits_eq_ok_iff.mpr ⟨_, h, rfl, hdigit⟩
    rw [List.cons_append, List.cons_append, List.append_assoc]
    unfold readExponent
    simp only [if_pos he]
    cases hsign with
    | none =>
      obtain ⟨c, later, rfl, -, hminus, hplus⟩ := h.exists_cons
      rw [List.nil_append]
      split
      · next hmatch => exact absurd (List.cons.inj hmatch).1 hminus
      · next hmatch => exact absurd (List.cons.inj hmatch).1 hplus
      · simp only [hread, ok_bind, Bool.false_eq_true, if_false]
    | plus => simp [hread]
    | minus => simp [hread]

theorem minus_of_match {text rest : Text} {negative : Bool}
    (h : (match text with
      | '-' :: rest => (true, rest)
      | rest => (false, rest)) = (negative, rest)) :
    text = (if negative then ['-'] else []) ++ rest := by
  split at h <;> simp only [Prod.mk.injEq] at h <;> obtain ⟨rfl, rfl⟩ := h <;> rfl

/-- What a number is read from can be written for it, and the number is finite. -/
theorem numberText_of_readNumber {text rest : Text} {numeral : Numeral}
    (h : readNumber text = .ok (numeral, rest)) :
    ∃ written, NumberText numeral written ∧ numeral.isFinite ∧ text = written ++ rest := by
  unfold readNumber at h
  split at h
  next hmatch =>
  rw [minus_of_match hmatch]
  rw [bind_eq_ok_iff] at h
  obtain ⟨⟨whole, behind⟩, hread, h⟩ := h
  obtain ⟨w, hwhole, rfl, -⟩ := readWhole_eq_ok_iff.mp hread
  rw [bind_eq_ok_iff] at h
  obtain ⟨⟨fraction, behind⟩, hread, h⟩ := h
  obtain ⟨f, hfraction, rfl⟩ := fraction_of_readFraction hread
  rw [bind_eq_ok_iff] at h
  obtain ⟨⟨exponent, behind⟩, hread, h⟩ := h
  obtain ⟨e, hexponent, rfl⟩ := exponent_of_readExponent hread
  dsimp only at h
  split at h
  · next hfinite =>
    cases h
    exact ⟨_, .parts hwhole hfraction hexponent, hfinite, by simp⟩
  · simp at h

theorem Exponent.stops {exponent : Int} {written rest : Text} (h : Exponent exponent written)
    (hrest : Stops continuesNumber rest) :
    Stops Char.isDigit (written ++ rest) ∧ Stops (· == '.') (written ++ rest) := by
  cases h with
  | none => exact ⟨hrest.of_continuesNumber.1, hrest.of_continuesNumber.2.1⟩
  | power he => rcases he with rfl | rfl <;> simp

theorem Fraction.stops {values : List Nat} {written rest : Text} (h : Fraction values written)
    (hrest : Stops Char.isDigit rest) : Stops Char.isDigit (written ++ rest) := by
  cases h with
  | none => exact hrest
  | point => simp

/-- A finite number is read back, if the text behind it does not go on as one. -/
theorem readNumber_append {numeral : Numeral} {written rest : Text} (h : NumberText numeral written)
    (hfinite : numeral.isFinite) (hrest : Stops continuesNumber rest) :
    readNumber (written ++ rest) = .ok (numeral, rest) := by
  obtain @⟨negative, whole, fraction, exponent, w, f, e, hwhole, hfraction, hexponent⟩ := h
  have hbehind := hexponent.stops hrest
  have hwholeRead := readWhole_eq_ok_iff.mpr ⟨w, hwhole, rfl, hfraction.stops hbehind.1⟩
  have hfractionRead := readFraction_append hfraction hbehind.1 hbehind.2
  have hexponentRead := readExponent_append hexponent hrest.of_continuesNumber.1
    hrest.of_continuesNumber.2.2
  obtain ⟨c, later, rfl, -, hminus, -⟩ := hwhole.toDigits.exists_cons
  cases negative with
  | true => simp_all [readNumber]
  | false => simp_all [readNumber]

end BenchRelay.Json
