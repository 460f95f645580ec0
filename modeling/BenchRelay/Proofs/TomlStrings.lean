import BenchRelay.Proofs.JsonTokens
import BenchRelay.Proofs.TomlGrammar

/-!
# Reading quoted texts

A quoted text is read back from any of its forms: the escapes are undone, and what belongs to the
line breaks at its front and behind a backslash is left out. A text of several lines ends at the
first three quotes in a row, but up to two more of them belong to it, so the text behind may not go
on with one.
-/

namespace BenchRelay.Toml

open Json (Stops stops_nil stops_cons_iff takeWhile_append_of_stops)

/-! ### Blanks and line breaks -/

theorem blank_nil : Blank [] := nofun

theorem skipBlanks_append {blank text : Text} (h : Blank blank) (ht : Stops isBlankInLine text) :
    skipBlanks (blank ++ text) = text :=
  (takeWhile_append_of_stops h ht).2

theorem skipBlanks_of_stops {text : Text} (h : Stops isBlankInLine text) : skipBlanks text = text :=
  skipBlanks_append blank_nil h

theorem LineBreak.lineBreak?_append {ending : Text} (h : LineBreak ending) (rest : Text) :
    lineBreak? (ending ++ rest) = some rest := by
  cases h <;> rfl

theorem LineBreak.stops {ending : Text} (h : LineBreak ending) (rest : Text) :
    Stops isBlankInLine (ending ++ rest) := by
  cases h <;> exact stops_cons_iff.mpr rfl

theorem lineBreak?_eq_none {c : Char} (rest : Text) (hlf : c ≠ '\n') (hcr : c ≠ '\r') :
    lineBreak? (c :: rest) = none := by
  unfold lineBreak?
  split <;> simp_all

theorem lineBreak?_append_eq_none {text : Text} (h : lineBreak? text = none)
    (hlength : 2 ≤ text.length) (rest : Text) : lineBreak? (text ++ rest) = none := by
  match text, hlength with
  | a :: b :: text, _ =>
    unfold lineBreak? at h ⊢
    split at h <;> simp_all

/-- A character that is neither a blank nor part of a line break. -/
def isInk (c : Char) : Bool := !isBlankInLine c && c != '\n' && c != '\r'

theorem isInk_iff {c : Char} : isInk c = true ↔ isBlankInLine c = false ∧ c ≠ '\n' ∧ c ≠ '\r' := by
  simp [isInk, and_assoc]

theorem skipLines_of_isInk {c : Char} (h : isInk c) (rest : Text) :
    skipLines (c :: rest) = c :: rest := by
  obtain ⟨hblank, hlf, hcr⟩ := isInk_iff.mp h
  rw [skipLines.eq_def]
  split <;> simp_all

theorem isBlankInLine_iff {c : Char} : isBlankInLine c = true ↔ c = ' ' ∨ c = '\t' := by
  simp [isBlankInLine]

/-- Blanks and line breaks are skipped up to the first character that is neither. -/
theorem skipLines_append {gap : Text} (h : Gap false gap) {c : Char} (hc : isInk c) (rest : Text) :
    skipLines (gap ++ c :: rest) = c :: rest := by
  induction h with
  | nil => exact skipLines_of_isInk hc rest
  | blank hblank _ ih =>
    rcases isBlankInLine_iff.mp hblank with rfl | rfl <;>
      simpa [skipLines, isBlankInLine] using ih
  | lineBreak hending _ ih => cases hending <;> simpa [skipLines] using ih
  | comment hcomments => contradiction

/-! ### Escapes -/

theorem hexCode?_append {digits : Text} {values : List Nat}
    (h : digits.mapM hexValue? = some values) (n : Nat) (rest : Text) :
    hexCode? n digits.length (digits ++ rest) =
      some (values.foldl (fun n value => n * 16 + value) n, rest) := by
  induction digits generalizing n values with
  | nil =>
    obtain rfl : values = [] := by simpa using h.symm
    rfl
  | cons c digits ih =>
    obtain ⟨value, hvalue, others, hothers, rfl⟩ : ∃ value, hexValue? c = some value ∧
        ∃ others, digits.mapM hexValue? = some others ∧ values = value :: others := by
      simpa [List.mapM_cons, Option.bind_eq_some_iff, eq_comm (a := values)] using h
    simpa [hexCode?, hvalue] using ih hothers (n * 16 + value)

theorem charOfCode?_toNat (c : Char) : charOfCode? c.toNat = some c := by
  have hvalid : c.toNat.isValidChar := c.valid
  rw [charOfCode?, if_pos hvalid, Char.ofNat_toNat]

theorem escape?_append {c : Char} {e : Text} (h : Escape c e) (rest : Text) :
    escape? (e ++ rest) = some (c, rest) := by
  cases h with
  | letter h =>
    simp only [letters, List.mem_cons, Prod.mk.injEq, List.not_mem_nil, or_false] at h
    rcases h with ⟨rfl, rfl⟩ | ⟨rfl, rfl⟩ | ⟨rfl, rfl⟩ | ⟨rfl, rfl⟩ | ⟨rfl, rfl⟩ | ⟨rfl, rfl⟩ |
      ⟨rfl, rfl⟩ | ⟨rfl, rfl⟩ <;> rfl
  | @code e width digits values hwidth hlength hvalues hcode =>
    have hcodePoint : codePoint? width (digits ++ rest) = some (c, rest) := by
      simp [codePoint?, ← hlength, hexCode?_append hvalues, hcode, charOfCode?_toNat]
    simp only [widths, List.mem_cons, Prod.mk.injEq, List.not_mem_nil, or_false] at hwidth
    rcases hwidth with ⟨rfl, rfl⟩ | ⟨rfl, rfl⟩ | ⟨rfl, rfl⟩ <;> exact hcodePoint

/-- An escape begins with a letter or a mark. -/
theorem Escape.exists_cons {c : Char} {e : Text} (h : Escape c e) :
    ∃ mark rest, e = mark :: rest ∧ isInk mark := by
  cases h with
  | @letter mark h =>
    refine ⟨mark, [], rfl, ?_⟩
    have hall : letters.all fun letter => isInk letter.1 := by decide
    exact List.all_eq_true.mp hall _ h
  | @code mark width digits values hwidth =>
    refine ⟨mark, digits, rfl, ?_⟩
    have hall : widths.all fun width => isInk width.1 := by decide
    exact List.all_eq_true.mp hall _ hwidth

/-! ### Texts of one line -/

theorem basicFrom_append {text written : Text} (h : Basic text written) (fuel : Nat)
    (seen rest : Text) (hfuel : written.length < fuel) :
    basicFrom fuel seen (written ++ '"' :: rest) = some (seen.reverse ++ text, rest) := by
  induction h generalizing fuel seen with
  | nil =>
    obtain ⟨fuel, rfl⟩ := Nat.exists_eq_add_of_lt hfuel
    simp [basicFrom]
  | plain hprintable hquote hslash _ ih =>
    obtain ⟨fuel, rfl⟩ := Nat.exists_eq_succ_of_ne_zero (Nat.ne_zero_of_lt hfuel)
    simp only [List.length_cons, Nat.succ_lt_succ_iff] at hfuel
    simp [basicFrom, hprintable, hquote, hslash, ih fuel _ hfuel]
  | escape he _ ih =>
    obtain ⟨fuel, rfl⟩ := Nat.exists_eq_succ_of_ne_zero (Nat.ne_zero_of_lt hfuel)
    simp only [List.cons_append, List.length_cons, List.length_append] at hfuel
    simp [basicFrom, escape?_append he, ih fuel _ (by omega)]

theorem basic?_append {text written : Text} (h : Basic text written) (rest : Text) :
    basic? (written ++ '"' :: rest) = some (text, rest) := by
  rw [basic?, basicFrom_append h _ [] rest (by simp only [List.length_append]; omega)]
  rfl

theorem literal?_append {text : Text} (h : Literal text) (rest : Text) :
    literal? (text ++ '\'' :: rest) = some (text, rest) := by
  have htext : ∀ c ∈ text, (isPrintable c && c ≠ '\'') = true := by simpa [Literal] using h
  have hstops : Stops (fun c => isPrintable c && c ≠ '\'') ('\'' :: rest) :=
    stops_cons_iff.mpr (by simp)
  obtain ⟨htake, hdrop⟩ := takeWhile_append_of_stops htext hstops
  simp only [literal?, hdrop, htake]

/-! ### Texts of several lines -/

section Lines

variable {quoteMark : Char} {escapes : Bool} {text written rest : Text}

theorem takeWhile_replicate (count : Nat) (hrest : ∀ c ∈ rest.head?, c ≠ quoteMark) :
    (List.replicate count quoteMark ++ rest).takeWhile (· == quoteMark) =
      List.replicate count quoteMark := by
  refine (takeWhile_append_of_stops (by simp) ?_).1
  simpa [Stops] using hrest

theorem closeLines?_closed {count : Nat} (hcount : count ≤ 2)
    (hrest : ∀ c ∈ rest.head?, c ≠ quoteMark) :
    closeLines? quoteMark (List.replicate (count + 3) quoteMark ++ rest) =
      some (List.replicate count quoteMark, rest) := by
  have hmin : min (count + 3) 5 = count + 3 := by omega
  rw [closeLines?, takeWhile_replicate _ hrest, List.length_replicate, if_pos (by omega), hmin,
    Nat.add_sub_cancel, List.drop_left' List.length_replicate]

theorem closeLines?_quotes {count : Nat} (hcount : count ≤ 2)
    (hrest : ∀ c ∈ rest.head?, c ≠ quoteMark) :
    closeLines? quoteMark (List.replicate count quoteMark ++ rest) = none := by
  rw [closeLines?, takeWhile_replicate _ hrest, List.length_replicate, if_neg (by omega)]

theorem closeLines?_cons {c : Char} (hc : c ≠ quoteMark) :
    closeLines? quoteMark (c :: rest) = none :=
  closeLines?_quotes (Nat.zero_le 2) (by simpa using hc)

theorem Lines.length_le (h : Lines quoteMark escapes text written) : 3 ≤ written.length := by
  induction h <;> simp only [List.length_append, List.length_cons, List.length_replicate] <;> omega

theorem Lines.ne_nil (h : Lines quoteMark escapes text written) : written ≠ [] :=
  List.ne_nil_of_length_pos (Nat.lt_of_lt_of_le (by decide) h.length_le)

/-- One step of reading takes a character that stands for itself. -/
theorem linesFrom_plain {fuel : Nat} {seen : Text} {c : Char}
    (hclose : closeLines? quoteMark (c :: rest) = none) (hslash : escapes → c ≠ '\\')
    (hplain : c = '\n' ∨ isPrintable c) :
    linesFrom quoteMark escapes (fuel + 1) seen (c :: rest) =
      linesFrom quoteMark escapes fuel (c :: seen) rest := by
  have hescapes : (escapes && c == '\\') = false := by
    cases escapes <;> simp_all
  rw [linesFrom.eq_def]
  simp only [hclose, hescapes, Bool.false_eq_true, if_false]
  rw [if_pos (by simpa using hplain)]

/-- One or two quotes that are not followed by another one stand for themselves. -/
theorem linesFrom_quotes (hquote : isPrintable quoteMark) (hmark : quoteMark ≠ '\\') {count : Nat}
    (hcount : count ≤ 2) (hrest : ∀ c ∈ rest.head?, c ≠ quoteMark) (fuel : Nat) (seen : Text) :
    linesFrom quoteMark escapes (fuel + count) seen (List.replicate count quoteMark ++ rest) =
      linesFrom quoteMark escapes fuel ((List.replicate count quoteMark).reverse ++ seen) rest := by
  induction count generalizing seen with
  | zero => simp
  | succ count ih =>
    have hclose := closeLines?_quotes hcount hrest
    rw [List.replicate_succ, List.cons_append] at hclose ⊢
    rw [← Nat.add_assoc, linesFrom_plain hclose (fun _ => hmark) (.inr hquote),
      ih (Nat.le_of_succ_le hcount)]
    simp

theorem linesFrom_append (hquote : isPrintable quoteMark) (hmark : isInk quoteMark)
    (hslash : quoteMark ≠ '\\') (hrest : ∀ c ∈ rest.head?, c ≠ quoteMark)
    (h : Lines quoteMark escapes text written) (fuel : Nat) (seen : Text)
    (hfuel : written.length ≤ fuel) :
    linesFrom quoteMark escapes fuel seen (written ++ rest) =
      some (seen.reverse ++ text, rest) := by
  induction h generalizing fuel seen with
  | @closed count hcount =>
    obtain ⟨fuel, rfl⟩ := Nat.exists_eq_add_of_le' (Nat.le_trans (by simp : 1 ≤ _) hfuel)
    have hclose := closeLines?_closed hcount hrest
    rw [List.replicate_succ, List.cons_append] at hclose ⊢
    rw [linesFrom.eq_def]
    simp only [hclose]
  | @quotes count text written hcount hnext h ih =>
    simp only [List.length_append, List.length_replicate] at hfuel
    obtain ⟨fuel, rfl⟩ := Nat.exists_eq_add_of_le' (Nat.le_of_add_right_le hfuel)
    have hbehind : ∀ c ∈ (written ++ rest).head?, c ≠ quoteMark := by
      obtain ⟨c, behind, hwritten⟩ := List.exists_cons_of_ne_nil h.ne_nil
      simpa [hwritten] using hnext
    rw [List.append_assoc, linesFrom_quotes hquote hslash hcount hbehind, ih fuel _ (by omega)]
    simp
  | @plain c text written hplain hc hescapes _ ih =>
    obtain ⟨fuel, rfl⟩ := Nat.exists_eq_add_of_le' (Nat.le_trans (by simp : 1 ≤ _) hfuel)
    rw [List.cons_append, linesFrom_plain (closeLines?_cons hc) hescapes hplain,
      ih fuel _ (by simpa using hfuel)]
    simp
  | @crlf text written _ ih =>
    obtain ⟨fuel, rfl⟩ := Nat.exists_eq_add_of_le' (Nat.le_trans (by simp : 1 ≤ _) hfuel)
    simp only [List.length_cons] at hfuel
    have hcr : '\r' ≠ quoteMark := fun h => (isInk_iff.mp hmark).2.2 h.symm
    rw [List.cons_append, List.cons_append, linesFrom.eq_def]
    simp [closeLines?_cons hcr, show isPrintable '\r' = false from rfl, ih fuel _ (by omega)]
  | @escape c e text written hescapes he _ ih =>
    obtain ⟨fuel, rfl⟩ := Nat.exists_eq_add_of_le' (Nat.le_trans (by simp : 1 ≤ _) hfuel)
    simp only [List.cons_append, List.length_cons, List.length_append] at hfuel
    obtain ⟨first, others, rfl, hink⟩ := he.exists_cons
    obtain ⟨hblank, hlf, hcr⟩ := isInk_iff.mp hink
    have hnoBreak : lineBreak? (skipBlanks (first :: others ++ (written ++ rest))) = none := by
      rw [List.cons_append, skipBlanks_of_stops (stops_cons_iff.mpr hblank),
        lineBreak?_eq_none _ hlf hcr]
    rw [List.append_assoc, List.cons_append, linesFrom.eq_def]
    simp only [closeLines?_cons hslash.symm, hescapes, beq_self_eq_true, Bool.and_self, if_true,
      hnoBreak, escape?_append he]
    rw [hescapes] at ih
    rw [ih fuel _ (by omega)]
    simp
  | @joined blank ending gap text written hescapes hblank hending hgap hnext h ih =>
    obtain ⟨fuel, rfl⟩ := Nat.exists_eq_add_of_le' (Nat.le_trans (by simp : 1 ≤ _) hfuel)
    simp only [List.cons_append, List.length_cons, List.length_append] at hfuel
    obtain ⟨c, behind, hwritten⟩ := List.exists_cons_of_ne_nil h.ne_nil
    have hink : isInk c := isInk_iff.mpr (hnext c (by rw [hwritten]; rfl))
    have hbreak : lineBreak? (skipBlanks (blank ++ (ending ++ (gap ++ (written ++ rest))))) =
        some (gap ++ (written ++ rest)) := by
      rw [skipBlanks_append hblank (hending.stops _), hending.lineBreak?_append]
    have hskip : skipLines (gap ++ (written ++ rest)) = written ++ rest := by
      rw [hwritten]
      exact skipLines_append hgap hink _
    simp only [List.append_assoc, List.cons_append]
    rw [linesFrom.eq_def]
    simp only [closeLines?_cons hslash.symm, hescapes, beq_self_eq_true, Bool.and_self, if_true,
      hbreak, hskip]
    rw [hescapes] at ih
    exact ih fuel _ (by omega)

theorem lines?_append (hquote : isPrintable quoteMark) (hmark : isInk quoteMark)
    (hslash : quoteMark ≠ '\\') (hrest : ∀ c ∈ rest.head?, c ≠ quoteMark) {start : Text}
    (hstart : LineBreak start ∨ start = [] ∧ lineBreak? written = none)
    (h : Lines quoteMark escapes text written) :
    lines? quoteMark escapes (start ++ written ++ rest) = some (text, rest) := by
  have htext : (lineBreak? (start ++ written ++ rest)).getD (start ++ written ++ rest) =
      written ++ rest := by
    rw [List.append_assoc]
    rcases hstart with hbreak | ⟨rfl, hnone⟩
    · rw [hbreak.lineBreak?_append, Option.getD_some]
    · rw [List.nil_append, lineBreak?_append_eq_none hnone (Nat.le_of_succ_le h.length_le)]
      rfl
  rw [lines?, htext, linesFrom_append hquote hmark hslash hrest h _ [] (by simp; omega)]
  rfl

end Lines

/-- One quote opens a text of one line unless there are three of them. -/
theorem quoted?_basic {text : Text} (h : ∀ rest, text ≠ '"' :: '"' :: rest) :
    quoted? ('"' :: text) = basic? text := by
  rw [quoted?.eq_def]
  split <;> simp_all

theorem quoted?_literal {text : Text} (h : ∀ rest, text ≠ '\'' :: '\'' :: rest) :
    quoted? ('\'' :: text) = literal? text := by
  rw [quoted?.eq_def]
  split <;> simp_all

theorem Basic.head?_ne {text written : Text} (h : Basic text written) :
    ∀ c ∈ written.head?, c ≠ '"' := by
  cases h <;> simp_all

/-- Two quotes do not stand at the front of a text and its closing quote if none stands behind. -/
theorem append_ne_quotes {quoteMark : Char} {text rest : Text}
    (htext : ∀ c ∈ text.head?, c ≠ quoteMark) (hrest : ∀ c ∈ rest.head?, c ≠ quoteMark)
    (more : Text) : text ++ quoteMark :: rest ≠ quoteMark :: quoteMark :: more := by
  cases text with
  | nil =>
    rintro h
    obtain ⟨-, rfl⟩ := List.cons.inj h
    exact hrest quoteMark rfl rfl
  | cons c text => exact fun h => htext c rfl (List.cons.inj h).1

theorem quoted?_append {text written rest : Text} (h : QuotedText text written)
    (hrest : ∀ c ∈ rest.head?, c ≠ '"' ∧ c ≠ '\'') :
    quoted? (written ++ rest) = some (text, rest) := by
  have hdouble : ∀ c ∈ rest.head?, c ≠ '"' := fun c hc => (hrest c hc).1
  have hsingle : ∀ c ∈ rest.head?, c ≠ '\'' := fun c hc => (hrest c hc).2
  cases h with
  | @basic _ written h =>
    rw [List.append_assoc, List.cons_append, List.singleton_append,
      quoted?_basic (append_ne_quotes h.head?_ne hdouble), basic?_append h]
  | literal h =>
    have hhead : ∀ c ∈ text.head?, c ≠ '\'' := fun c hc => (h c (List.mem_of_mem_head? hc)).2
    rw [List.append_assoc, List.cons_append, List.singleton_append,
      quoted?_literal (append_ne_quotes hhead hsingle), literal?_append h]
  | basicLines hstart h => exact lines?_append rfl rfl (by decide) hdouble hstart h
  | literalLines hstart h => exact lines?_append rfl rfl (by decide) hsingle hstart h

end BenchRelay.Toml
