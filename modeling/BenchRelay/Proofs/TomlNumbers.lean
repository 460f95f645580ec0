import BenchRelay.Proofs.JsonTokens
import BenchRelay.Proofs.TomlGrammar
import Mathlib.Algebra.Order.Field.Basic
import Mathlib.Data.Nat.Digits.Defs
import Mathlib.Tactic.NormNum
import Mathlib.Tactic.Positivity

/-!
# Reading numbers

An integer and a number with a point or an exponent are read back from their texts, each as what it
is. Whether a number rounds to a finite double is decided by the number of its digits but for those
close to the border, and the decision is right on both sides of it.
-/

namespace BenchRelay.Toml

open Json (Sign Stops stops_nil stops_cons_iff takeWhile_append_of_stops)

/-! ### Digits in groups -/

section Grouped

variable {isDigit : Char → Bool} {digits written : Text}

theorem Grouped.exists_cons (h : Grouped isDigit digits written) :
    ∃ c rest, written = c :: rest ∧ isDigit c := by
  cases h with
  | last hc => exact ⟨_, _, rfl, hc⟩
  | next hc => exact ⟨_, _, rfl, hc⟩
  | underscore hc => exact ⟨_, _, rfl, hc⟩

theorem Grouped.isDigit_or (h : Grouped isDigit digits written) :
    ∀ c ∈ written, isDigit c ∨ c = '_' := by
  induction h <;> simp_all

theorem digitGroups?_next {c : Char} {text : Text} (hne : text ≠ [])
    (hhead : ∀ d ∈ text.head?, d ≠ '_') :
    digitGroups? isDigit (c :: text) =
      if isDigit c then (digitGroups? isDigit text).map (c :: ·) else none := by
  rw [digitGroups?.eq_def]
  split <;> simp_all

theorem Grouped.digitGroups?_eq (hunderscore : isDigit '_' = false)
    (h : Grouped isDigit digits written) : digitGroups? isDigit written = some digits := by
  induction h with
  | last hc => simp [digitGroups?, hc]
  | @next c digits written hc h ih =>
    obtain ⟨d, rest, rfl, hd⟩ := h.exists_cons
    have hhead : d ≠ '_' := by
      rintro rfl
      simp [hunderscore] at hd
    rw [digitGroups?_next (List.cons_ne_nil _ _) (by simpa using hhead), if_pos hc, ih]
    rfl
  | underscore hc _ ih => simp [digitGroups?, hc, ih]

/-- There are no groups of digits where there is another character. -/
theorem digitGroups?_eq_none {text : Text} {c : Char} (hmem : c ∈ text) (hdigit : isDigit c = false)
    (hunderscore : c ≠ '_') : digitGroups? isDigit text = none := by
  fun_induction digitGroups? isDigit text <;> grind

end Grouped

theorem Whole.wholeDigits?_eq {digits written : Text} (h : Whole digits written) :
    wholeDigits? written = some digits := by
  rw [wholeDigits?, h.grouped.digitGroups?_eq rfl]
  split
  · next heq =>
    obtain rfl := Option.some.inj heq
    simpa using h.alone rfl
  · rfl

theorem wholeDigits?_eq_none {text : Text} {c : Char} (hmem : c ∈ text) (hdigit : c.isDigit = false)
    (hunderscore : c ≠ '_') : wholeDigits? text = none := by
  rw [wholeDigits?, digitGroups?_eq_none hmem hdigit hunderscore]

/-! ### Signs -/

/-- A sign is taken off if no other one follows. -/
theorem sign_append {negative : Bool} {mark text : Text} (h : Sign negative mark)
    (htext : ∀ c ∈ text.head?, c ≠ '+' ∧ c ≠ '-') : sign (mark ++ text) = (negative, text) := by
  cases h with
  | none =>
    rw [List.nil_append, sign.eq_def]
    split <;> simp_all
  | plus => rfl
  | minus => rfl

theorem ne_sign_of_isDigit {c : Char} (hc : c.isDigit) : c ≠ '+' ∧ c ≠ '-' := by
  constructor <;> rintro rfl <;> simp at hc

theorem Grouped.sign_append {negative : Bool} {mark digits written : Text}
    (h : Grouped Char.isDigit digits written) (hsign : Sign negative mark) (rest : Text) :
    sign (mark ++ (written ++ rest)) = (negative, written ++ rest) := by
  obtain ⟨c, others, rfl, hc⟩ := h.exists_cons
  exact Toml.sign_append hsign (by simpa using ne_sign_of_isDigit hc)

/-! ### Characters of numbers in base ten -/

/-- A character of a number in base ten. -/
def isDecimalChar (c : Char) : Bool := c.isDigit || ['_', '+', '-', '.', 'e', 'E'].contains c

section Decimal

variable {negative : Bool} {mark digits written : Text} {exponent : Int}

theorem all_isDecimalChar_sign (h : Sign negative mark) : mark.all isDecimalChar := by
  cases h <;> rfl

theorem Grouped.all_isDecimalChar (h : Grouped Char.isDigit digits written) :
    written.all isDecimalChar := by
  rw [List.all_eq_true]
  intro c hc
  rcases h.isDigit_or c hc with hdigit | rfl
  · rw [isDecimalChar, hdigit, Bool.true_or]
  · rfl

theorem Fraction.all_isDecimalChar (h : Fraction digits written) : written.all isDecimalChar := by
  cases h with
  | none => rfl
  | point h => rw [List.all_cons, h.all_isDecimalChar]; rfl

theorem Exponent.all_isDecimalChar (h : Exponent exponent written) :
    written.all isDecimalChar := by
  cases h with
  | none => rfl
  | @power mark _ _ _ _ hmark hsign h =>
    have hmark : isDecimalChar mark = true := by
      rcases Bool.or_eq_true_iff.mp hmark with hmark | hmark <;>
        rw [beq_iff_eq.mp hmark] <;> rfl
    rw [List.cons_append, List.all_cons, List.all_append, hmark, all_isDecimalChar_sign hsign,
      h.all_isDecimalChar]
    rfl

theorem all_isDecimalChar_append {whole fraction w f e : Text} (hsign : Sign negative mark)
    (hwhole : Whole whole w) (hfraction : Fraction fraction f) (hexponent : Exponent exponent e) :
    (mark ++ w ++ f ++ e).all isDecimalChar := by
  simp only [List.all_append, all_isDecimalChar_sign hsign, hwhole.grouped.all_isDecimalChar,
    hfraction.all_isDecimalChar, hexponent.all_isDecimalChar, Bool.and_self]

end Decimal

/-! ### Integers -/

theorem based?_of_grouped {base : Nat} {isDigit : Char → Bool} {digits written : Text}
    (hunderscore : isDigit '_' = false) (h : Grouped isDigit digits written) :
    based? base isDigit written = some (.integer (ofDigits base digits)) := by
  have hne : written.isEmpty = false := by
    obtain ⟨c, rest, rfl, -⟩ := h.exists_cons
    rfl
  simp [based?, hne, h.digitGroups?_eq hunderscore]

/-- Where no letter names another base, an integer has base ten. -/
theorem integer?_of_ten {text : Text} (h : text.all isDecimalChar) :
    integer? text = match wholeDigits? (sign text).2 with
      | some digits =>
        some (.integer (if (sign text).1 then -(ofDigits 10 digits : Int) else ofDigits 10 digits))
      | none => if isGroupedInteger (sign text).2 then some .unreadable else none := by
  rw [integer?.eq_def]
  split
  · simp [isDecimalChar] at h
  · simp [isDecimalChar] at h
  · simp [isDecimalChar] at h
  · rfl

theorem IntegerText.integer?_eq {n : Int} {text : Text} (h : IntegerText n text) :
    integer? text = some (.integer n) := by
  cases h with
  | @decimal negative mark digits written hsign h =>
    have hchars : (mark ++ written).all isDecimalChar := by
      rw [List.all_append, all_isDecimalChar_sign hsign, h.grouped.all_isDecimalChar, Bool.and_self]
    have hmark := h.grouped.sign_append hsign []
    rw [List.append_nil] at hmark
    rw [integer?_of_ten hchars, hmark, h.wholeDigits?_eq]
  | based hbase h =>
    simp only [bases, List.mem_cons, Prod.mk.injEq, List.not_mem_nil, or_false] at hbase
    rcases hbase with ⟨rfl, rfl, rfl⟩ | ⟨rfl, rfl, rfl⟩ | ⟨rfl, rfl, rfl⟩ <;>
      exact based?_of_grouped rfl h

/-! ### The range of doubles -/

section Range

variable {digits : Text} {exponent : Int}

theorem magnitude_eq_zero (h : ofDigits 10 digits = 0) : magnitude digits exponent = 0 := by
  rw [magnitude, h, Nat.cast_zero, zero_mul]

/-- The number of digits of a number bounds it on both sides. -/
theorem decimal_bounds {n : Nat} (hn : n ≠ 0) :
    10 ^ ((Text.decimal n).length - 1) ≤ n ∧ n < 10 ^ (Text.decimal n).length := by
  have hlength : 0 < (Text.decimal n).length := Nat.length_toDigits_pos
  constructor
  · by_cases hone : (Text.decimal n).length - 1 = 0
    · rw [hone]
      exact Nat.one_le_iff_ne_zero.mpr hn
    · rw [← Nat.not_lt, ← Nat.length_toDigits_le_iff (by decide) (Nat.pos_of_ne_zero hone)]
      exact Nat.not_le.mpr (Nat.sub_one_lt_of_lt hlength)
  · exact (Nat.length_toDigits_le_iff (by decide) hlength).mp (Nat.le_refl _)

theorem magnitude_lt (h : ofDigits 10 digits ≠ 0) :
    magnitude digits exponent <
      10 ^ (exponent + (Text.decimal (ofDigits 10 digits)).length) := by
  have hlt : (ofDigits 10 digits : ℚ) < 10 ^ (Text.decimal (ofDigits 10 digits)).length := by
    exact_mod_cast (decimal_bounds h).2
  calc magnitude digits exponent
      < 10 ^ (Text.decimal (ofDigits 10 digits)).length * 10 ^ exponent :=
        mul_lt_mul_of_pos_right hlt (zpow_pos (by norm_num) _)
    _ = 10 ^ (exponent + (Text.decimal (ofDigits 10 digits)).length) := by
        rw [zpow_add₀ (by norm_num), zpow_natCast, mul_comm]

theorem le_magnitude (h : ofDigits 10 digits ≠ 0) :
    10 ^ (exponent + (Text.decimal (ofDigits 10 digits)).length - 1) ≤
      magnitude digits exponent := by
  have hlength : 0 < (Text.decimal (ofDigits 10 digits)).length := Nat.length_toDigits_pos
  have hle : (10 : ℚ) ^ ((Text.decimal (ofDigits 10 digits)).length - 1) ≤ ofDigits 10 digits := by
    exact_mod_cast (decimal_bounds h).1
  calc (10 : ℚ) ^ (exponent + (Text.decimal (ofDigits 10 digits)).length - 1)
      = 10 ^ ((Text.decimal (ofDigits 10 digits)).length - 1) * 10 ^ exponent := by
        rw [add_sub_assoc, zpow_add₀ (by norm_num), mul_comm, ← Nat.cast_one,
          ← Nat.cast_sub hlength, zpow_natCast]
    _ ≤ magnitude digits exponent := mul_le_mul_of_nonneg_right hle (zpow_nonneg (by norm_num) _)

theorem doubleOverflow_bounds : 10 ^ 300 ≤ doubleOverflow ∧ doubleOverflow ≤ 10 ^ 320 := by
  decide +kernel

/-- Far from the border the number of digits decides, close to it the number itself. -/
theorem decimalInRange_eq :
    decimalInRange digits exponent = decide (magnitude digits exponent < doubleOverflow) := by
  have hlow : (10 : ℚ) ^ (300 : ℤ) ≤ doubleOverflow := by exact_mod_cast doubleOverflow_bounds.1
  have hhigh : (doubleOverflow : ℚ) ≤ 10 ^ (320 : ℤ) := by exact_mod_cast doubleOverflow_bounds.2
  unfold decimalInRange
  dsimp only
  split
  · next hsmall =>
    refine (decide_eq_true ?_).symm
    rw [Bool.or_eq_true, beq_iff_eq, decide_eq_true_eq] at hsmall
    by_cases hzero : ofDigits 10 digits = 0
    · rw [magnitude_eq_zero hzero]
      exact_mod_cast Nat.lt_of_lt_of_le (by positivity) doubleOverflow_bounds.1
    · refine (magnitude_lt hzero).trans_le (le_trans ?_ hlow)
      exact zpow_le_zpow_right₀ (by norm_num) (hsmall.resolve_left hzero).le
  · next hlarge =>
    rw [Bool.or_eq_true, beq_iff_eq, decide_eq_true_eq, not_or] at hlarge
    split
    · next hgreat =>
      refine (decide_eq_false ?_).symm
      rw [not_lt]
      refine hhigh.trans (le_trans ?_ (le_magnitude hlarge.1))
      exact zpow_le_zpow_right₀ (by norm_num) (by omega)
    · cases exponent with
      | ofNat power =>
        rw [decide_eq_decide, magnitude, Int.ofNat_eq_natCast, zpow_natCast]
        exact_mod_cast Iff.rfl
      | negSucc power =>
        rw [decide_eq_decide, magnitude, zpow_negSucc, ← div_eq_mul_inv,
          div_lt_iff₀ (by positivity)]
        exact_mod_cast Iff.rfl

end Range

/-! ### Numbers with a point or an exponent -/

/-- Whether a character ends the digits before the point. -/
def endsWhole (c : Char) : Bool := isExponentMark c || c == '.'

theorem endsWhole_eq_false {c : Char} (hc : c.isDigit ∨ c = '_') : endsWhole c = false := by
  rw [← Bool.not_eq_true]
  intro h
  simp only [endsWhole, isExponentMark, Bool.or_eq_true, beq_iff_eq] at h
  rcases h with (rfl | rfl) | rfl <;> simp at hc

theorem isExponentMark_eq_false {c : Char} (hc : c.isDigit ∨ c = '_') : isExponentMark c = false :=
  (Bool.or_eq_false_iff.mp (endsWhole_eq_false hc)).1

section Parts

variable {digits f e : Text} {exponent : Int}

theorem Fraction.fractionDigits?_eq (h : Fraction digits f) : fractionDigits? f = some digits := by
  cases h with
  | none => rfl
  | point h => exact h.digitGroups?_eq rfl

theorem Fraction.isExponentMark_eq_false (h : Fraction digits f) :
    ∀ c ∈ f, isExponentMark c = false := by
  cases h with
  | none => simp
  | point h =>
    intro c hc
    rcases List.mem_cons.mp hc with rfl | hc
    · rfl
    · exact Toml.isExponentMark_eq_false (h.isDigit_or c hc)

theorem Exponent.exponent?_eq (h : Exponent exponent e) : exponent? e = some exponent := by
  cases h with
  | none => rfl
  | power hmark hsign h =>
    have hsign := h.sign_append hsign []
    rw [List.append_nil] at hsign
    simp only [List.cons_append, exponent?, hsign, h.digitGroups?_eq rfl, Option.map_some]

/-- An exponent begins with its mark. -/
theorem Exponent.head? (h : Exponent exponent e) : ∀ c ∈ e.head?, isExponentMark c := by
  cases h with
  | none => simp
  | power hmark => simpa using hmark

/-- What follows the digits before the point begins with a point or the mark of an exponent. -/
theorem Fraction.exists_endsWhole (hf : Fraction digits f) (he : Exponent exponent e)
    (hsome : f ++ e ≠ []) : ∃ c rest, f ++ e = c :: rest ∧ endsWhole c := by
  cases hf with
  | point h => exact ⟨'.', _, rfl, rfl⟩
  | none =>
    rw [List.nil_append] at hsome ⊢
    obtain ⟨c, rest, rfl⟩ := List.exists_cons_of_ne_nil hsome
    exact ⟨c, rest, rfl, by rw [endsWhole, he.head? c rfl, Bool.true_or]⟩

end Parts

theorem FloatText.float?_eq {finite : Bool} {text : Text} (h : FloatText finite text) :
    float? text = some finite := by
  cases h with
  | word hsign hword => cases hsign <;> rcases hword with rfl | rfl <;> rfl
  | @digits _ mark whole w fraction f e exponent hsign hwhole hfraction hexponent hsome =>
    have hmark := hwhole.grouped.sign_append hsign (f ++ e)
    obtain ⟨first, others, hw, hdigit⟩ := hwhole.grouped.exists_cons
    obtain ⟨c, rest, hrest, hends⟩ := hfraction.exists_endsWhole hexponent hsome
    have hword : ¬ (w ++ (f ++ e) = "inf".toList ∨ w ++ (f ++ e) = "nan".toList) := by
      rw [hw, List.cons_append]
      rintro (h | h) <;> rw [(List.cons.inj h).1] at hdigit <;> contradiction
    obtain ⟨htakeWhole, hdropWhole⟩ : (w ++ (f ++ e)).takeWhile (!endsWhole ·) = w ∧
        (w ++ (f ++ e)).dropWhile (!endsWhole ·) = f ++ e := by
      refine takeWhile_append_of_stops (fun c hc => ?_) (by simp [hrest, hends])
      simp [endsWhole_eq_false (hwhole.grouped.isDigit_or c hc)]
    obtain ⟨htake, hdrop⟩ : (f ++ e).takeWhile (!isExponentMark ·) = f ∧
        (f ++ e).dropWhile (!isExponentMark ·) = e := by
      refine takeWhile_append_of_stops (fun c hc => ?_) (fun c hc => ?_)
      · simp [hfraction.isExponentMark_eq_false c hc]
      · simp [hexponent.head? c hc]
    simp only [endsWhole] at htakeWhole hdropWhole
    rw [List.append_assoc, List.append_assoc]
    simp only [float?, hmark]
    rw [if_neg (by simpa using hword)]
    simp only [htakeWhole, hdropWhole, htake, hdrop, hwhole.wholeDigits?_eq,
      hfraction.fractionDigits?_eq, hexponent.exponent?_eq, Option.bind_eq_bind, Option.bind_some]
    rw [if_neg (by simpa using hsome), decimalInRange_eq]

/-- An integer in groups has neither a point nor an exponent. -/
theorem isGroupedInteger_eq_false {text : Text} {c : Char} (hmem : c ∈ text)
    (hdigit : c.isDigit = false) (hends : endsInteger c) : isGroupedInteger text = false := by
  have hany : (text.dropWhile Char.isDigit).any endsInteger = true := by
    rw [List.any_eq_true]
    refine ⟨c, ?_, hends⟩
    rw [← List.takeWhile_append_dropWhile (p := Char.isDigit) (l := text),
      List.mem_append] at hmem
    refine hmem.resolve_left fun htake => ?_
    rw [List.mem_takeWhile_imp htake] at hdigit
    contradiction
  unfold isGroupedInteger
  dsimp only
  split <;> simp [hany]

/-- What has a point or an exponent is no integer. -/
theorem FloatText.integer?_eq_none {finite : Bool} {text : Text} (h : FloatText finite text) :
    integer? text = none := by
  cases h with
  | word hsign hword => cases hsign <;> rcases hword with rfl | rfl <;> decide
  | @digits _ mark whole w fraction f e exponent hsign hwhole hfraction hexponent hsome =>
    have hmark := hwhole.grouped.sign_append hsign (f ++ e)
    obtain ⟨c, rest, hrest, hends⟩ := hfraction.exists_endsWhole hexponent hsome
    have hmem : c ∈ w ++ (f ++ e) := by simp [hrest]
    have hdigit : ¬ (c.isDigit ∨ c = '_') := fun hc => by simp [endsWhole_eq_false hc] at hends
    rw [not_or, Bool.not_eq_true] at hdigit
    have hinteger : endsInteger c := by
      simp only [endsWhole, isExponentMark, endsInteger, Bool.or_eq_true] at hends ⊢
      tauto
    rw [integer?_of_ten (all_isDecimalChar_append hsign hwhole hfraction hexponent),
      List.append_assoc, List.append_assoc, hmark,
      wholeDigits?_eq_none hmem hdigit.1 hdigit.2]
    simp [isGroupedInteger_eq_false hmem hdigit.1 hinteger]

end BenchRelay.Toml
