import BenchRelay.Proofs.JsonGrammar
import Mathlib.Data.List.TakeWhile

/-!
# Reading blanks, words and commas

A reader takes from a text exactly what the grammar allows at its front. Blanks are taken as far as
they go, so the rules for what they surround also say that the text behind them does not go on with
another one.
-/

namespace BenchRelay.Json

section Steps

variable {α β : Type}

@[simp] theorem ok_bind (x : α) (next : α → Except Fault β) : (Except.ok x >>= next) = next x := rfl

@[simp] theorem error_bind (fault : Fault) (next : α → Except Fault β) :
    (Except.error fault >>= next) = .error fault := rfl

/-- Two readers one after the other read if both do. -/
theorem bind_eq_ok_iff {first : Except Fault α} {next : α → Except Fault β} {y : β} :
    (first >>= next) = .ok y ↔ ∃ x, first = .ok x ∧ next x = .ok y := by
  cases first with
  | error fault => simp
  | ok x => simp

end Steps

/-! ### Runs of characters of a kind -/

/-- A text does not go on with a character of a kind. -/
def Stops (kind : Char → Bool) (text : Text) : Prop := ∀ c ∈ text.head?, kind c = false

section Runs

variable {kind : Char → Bool} {s t : Text}

@[simp] theorem stops_nil : Stops kind [] := nofun

@[simp] theorem stops_cons_iff {c : Char} : Stops kind (c :: t) ↔ kind c = false := by
  simp [Stops]

theorem stops_dropWhile : Stops kind (t.dropWhile kind) := by
  induction t with
  | nil => simp
  | cons c t ih => by_cases h : kind c <;> simp [h, ih]

/-- A run and what stops it are found again. -/
theorem takeWhile_append_of_stops (hs : ∀ c ∈ s, kind c) (ht : Stops kind t) :
    (s ++ t).takeWhile kind = s ∧ (s ++ t).dropWhile kind = t := by
  induction s with
  | nil =>
    cases t with
    | nil => simp
    | cons c t => simp [stops_cons_iff.mp ht]
  | cons c s ih => simp_all

end Runs

/-! ### Blanks -/

theorem skipSpaces_append {blank text : Text} (h : Blank blank) (ht : Stops isSpace text) :
    skipSpaces (blank ++ text) = text :=
  (takeWhile_append_of_stops h ht).2

/-- Skipping blanks ends at the first character that is none. -/
theorem exists_blank (text : Text) : ∃ blank, Blank blank ∧ text = blank ++ skipSpaces text :=
  ⟨text.takeWhile isSpace, fun _ hc => List.mem_takeWhile_imp hc,
    List.takeWhile_append_dropWhile.symm⟩

theorem stops_skipSpaces (text : Text) : Stops isSpace (skipSpaces text) := stops_dropWhile

theorem stops_isSpace_cons {c : Char} (hc : isSpace c = false) (text : Text) :
    Stops isSpace (c :: text) := stops_cons_iff.mpr hc

/-! ### Words and separators -/

theorem readWord_eq_ok_iff {expected text rest : Text} :
    readWord expected text = .ok rest ↔ text = expected ++ rest := by
  induction expected generalizing text with
  | nil => simp [readWord]
  | cons a expected ih =>
    cases text with
    | nil => simp [readWord]
    | cons b text => by_cases h : a = b <;> simp [readWord, h, ih, eq_comm]

/-- Where blanks and the closing bracket follow, a list ends. -/
theorem readAfter_eq_last_iff {closing : Char} (hcomma : closing ≠ ',')
    (hspace : isSpace closing = false) {text rest : Text} :
    readAfter closing text = .ok (.last rest) ↔
      ∃ blank, Blank blank ∧ text = blank ++ closing :: rest := by
  constructor
  · intro h
    obtain ⟨blank, hblank, htext⟩ := exists_blank text
    unfold readAfter at h
    split at h
    · simp at h
    next c behind hskip =>
    split at h
    · simp at h
    split at h
    · next hclosing =>
      simp only [Except.ok.injEq, After.last.injEq] at h
      exact ⟨blank, hblank, by rw [htext, hskip, hclosing, h]⟩
    · simp at h
  · rintro ⟨blank, hblank, rfl⟩
    rw [readAfter, skipSpaces_append hblank (stops_isSpace_cons hspace rest)]
    simp [hcomma]

theorem readAfter_last {closing : Char} (hcomma : closing ≠ ',') (hspace : isSpace closing = false)
    {blank : Text} (h : Blank blank) (rest : Text) :
    readAfter closing (blank ++ closing :: rest) = .ok (.last rest) :=
  (readAfter_eq_last_iff hcomma hspace).mpr ⟨blank, h, rfl⟩

/-- Where a comma follows, a list goes on behind the blanks on both sides of it. -/
theorem readAfter_eq_next_iff {closing : Char} {text rest : Text} :
    readAfter closing text = .ok (.next rest) ↔
      ∃ comma, Comma comma ∧ text = comma ++ rest ∧ Stops isSpace rest := by
  constructor
  · intro h
    obtain ⟨before, hbefore, htext⟩ := exists_blank text
    unfold readAfter at h
    split at h
    · simp at h
    next c behind hskip =>
    split at h
    · next hcomma =>
      simp only [Except.ok.injEq, After.next.injEq] at h
      obtain ⟨after, hafter, hbehind⟩ := exists_blank behind
      refine ⟨_, .blanks hbefore hafter, ?_, h ▸ stops_skipSpaces behind⟩
      rw [htext, hskip, hcomma, hbehind, h]
      simp
    · split at h <;> simp at h
  · rintro ⟨_, ⟨hbefore, hafter⟩, rfl, hstops⟩
    have hcomma {text : Text} : Stops isSpace (',' :: text) := stops_isSpace_cons (by decide) text
    rw [List.append_assoc, List.cons_append, readAfter, skipSpaces_append hbefore hcomma]
    simp [skipSpaces_append hafter hstops]

theorem readAfter_next {closing : Char} {comma rest : Text} (h : Comma comma)
    (hrest : Stops isSpace rest) : readAfter closing (comma ++ rest) = .ok (.next rest) :=
  readAfter_eq_next_iff.mpr ⟨comma, h, rfl, hrest⟩

end BenchRelay.Json
