import BenchRelay.Text.Lines
import Mathlib.Data.List.Basic

/-!
# Laws of cutting lines

No complete line and no rest holds the terminator, and there is only one way to put a sequence
together of such parts. So cutting a sequence in two pieces, with what is left of the first put in
front of the second, is cutting it whole.
-/

namespace BenchRelay.Lines

variable {α : Type} [DecidableEq α]

omit [DecidableEq α] in
/-- No part of some lines holds the terminator. -/
structure Clean (terminator : α) (lines : Lines α) : Prop where
  complete : ∀ line ∈ lines.complete, terminator ∉ line
  rest : terminator ∉ lines.rest

omit [DecidableEq α] in
/-- The same function of every part. -/
def map {β : Type} (f : List α → List β) (lines : Lines α) : Lines β :=
  ⟨lines.complete.map f, f lines.rest⟩

theorem clean_cons {terminator : α} {lines : Lines α} (h : lines.Clean terminator) (a : α) :
    (cons terminator a lines).Clean terminator := by
  unfold cons
  split
  · exact ⟨by simpa using h.complete, h.rest⟩
  · next ha =>
    obtain ⟨complete, rest⟩ := lines
    cases complete with
    | nil => exact ⟨by simp, by simpa [Ne.symm ha] using h.rest⟩
    | cons first more =>
      have hcomplete := h.complete
      simp only [List.mem_cons, forall_eq_or_imp] at hcomplete
      refine ⟨?_, h.rest⟩
      simpa [Ne.symm ha] using hcomplete

/-- Cutting leaves no terminator behind. -/
theorem clean_split (terminator : α) (sequence : List α) :
    (split terminator sequence).Clean terminator := by
  induction sequence with
  | nil => exact ⟨by simp, by simp⟩
  | cons a sequence ih => exact clean_cons ih a

theorem split_of_not_mem {terminator : α} {sequence : List α} (h : terminator ∉ sequence) :
    split terminator sequence = ⟨[], sequence⟩ := by
  induction sequence with
  | nil => rfl
  | cons a sequence ih =>
    simp only [List.mem_cons, not_or] at h
    rw [split_cons, ih h.2, cons, if_neg (Ne.symm h.1)]

/-- There are complete lines exactly where there are terminators. -/
theorem complete_split_eq_nil_iff {terminator : α} {sequence : List α} :
    (split terminator sequence).complete = [] ↔ terminator ∉ sequence := by
  constructor
  · intro hcomplete
    have hrest := unsplit_split terminator sequence
    rw [unsplit, hcomplete, List.flatMap_nil, List.nil_append] at hrest
    rw [← hrest]
    exact (clean_split terminator sequence).rest
  · intro h
    rw [split_of_not_mem h]

/-- There are as many complete lines as terminators. -/
theorem length_complete_split (terminator : α) (sequence : List α) :
    (split terminator sequence).complete.length = sequence.count terminator := by
  induction sequence with
  | nil => rfl
  | cons a sequence ih =>
    rw [split_cons, cons, List.count_cons, ← ih]
    by_cases h : a = terminator
    · simp [h]
    · obtain ⟨_ | ⟨first, more⟩, rest⟩ := split terminator sequence <;> simp [h]

/-- A line at the front is cut off. -/
theorem split_line_append {terminator : α} {line : List α} (h : terminator ∉ line)
    (sequence : List α) : split terminator (line ++ terminator :: sequence) =
      ⟨line :: (split terminator sequence).complete, (split terminator sequence).rest⟩ := by
  induction line with
  | nil => simp [cons]
  | cons a line ih =>
    simp only [List.mem_cons, not_or] at h
    rw [List.cons_append, split_cons, ih h.2, cons, if_neg (Ne.symm h.1)]

/-- Clean lines are recovered from what they were put together to. -/
theorem split_unsplit {terminator : α} {lines : Lines α} (h : lines.Clean terminator) :
    split terminator (unsplit terminator lines) = lines := by
  obtain ⟨complete, rest⟩ := lines
  induction complete with
  | nil => simpa [unsplit] using split_of_not_mem h.rest
  | cons line complete ih =>
    have hcomplete := h.complete
    simp only [List.mem_cons, forall_eq_or_imp] at hcomplete
    have htail := ih ⟨hcomplete.2, h.rest⟩
    simp only [unsplit, List.flatMap_cons, List.append_assoc, List.cons_append,
      List.nil_append] at htail ⊢
    rw [split_line_append hcomplete.1, htail]

/-- Lines that put a sequence together without a spare terminator are those that it is cut to. -/
theorem split_eq_iff {terminator : α} {sequence : List α} {lines : Lines α} :
    split terminator sequence = lines ↔
      lines.Clean terminator ∧ unsplit terminator lines = sequence := by
  constructor
  · rintro rfl
    exact ⟨clean_split terminator sequence, unsplit_split terminator sequence⟩
  · rintro ⟨hclean, rfl⟩
    exact split_unsplit hclean

omit [DecidableEq α] in
theorem unsplit_after (terminator : α) (pending : List α) (lines : Lines α) :
    unsplit terminator (lines.after pending) = pending ++ unsplit terminator lines := by
  obtain ⟨_ | ⟨first, more⟩, rest⟩ := lines <;> simp [unsplit, after]

omit [DecidableEq α] in
theorem clean_after {terminator : α} {pending : List α} {lines : Lines α}
    (hpending : terminator ∉ pending) (h : lines.Clean terminator) :
    (lines.after pending).Clean terminator := by
  obtain ⟨_ | ⟨first, more⟩, rest⟩ := lines
  · exact ⟨by simp [after], by simpa [after, hpending] using h.rest⟩
  · have hcomplete := h.complete
    simp only [List.mem_cons, forall_eq_or_imp] at hcomplete
    exact ⟨by simpa [after, hpending] using hcomplete, h.rest⟩

/-- An unfinished rest put in front of lines might as well be put in front of what they are cut
from. -/
theorem after_split {terminator : α} {pending : List α} (h : terminator ∉ pending)
    (sequence : List α) :
    (split terminator sequence).after pending = split terminator (pending ++ sequence) := by
  rw [eq_comm, split_eq_iff, unsplit_after, unsplit_split]
  exact ⟨clean_after h (clean_split terminator sequence), rfl⟩

omit [DecidableEq α] in
@[simp] theorem after_nil (lines : Lines α) : lines.after [] = lines := by
  obtain ⟨_ | ⟨first, more⟩, rest⟩ := lines <;> rfl

omit [DecidableEq α] in
theorem rest_after_of_complete_nil {lines : Lines α} (h : lines.complete = []) (pending : List α) :
    (lines.after pending).rest = pending ++ lines.rest := by
  simp only [after, h]

omit [DecidableEq α] in
theorem rest_after_of_complete_ne_nil {lines : Lines α} (h : lines.complete ≠ [])
    (pending : List α) : (lines.after pending).rest = lines.rest := by
  obtain ⟨first, more, hcomplete⟩ := List.exists_cons_of_ne_nil h
  simp only [after, hcomplete]

theorem after_cons (terminator : α) (pending : List α) (a : α) (lines : Lines α) :
    (cons terminator a lines).after pending =
      if a = terminator then ⟨pending :: lines.complete, lines.rest⟩
      else lines.after (pending ++ [a]) := by
  unfold cons
  split
  · simp [after]
  · obtain ⟨_ | ⟨first, more⟩, rest⟩ := lines <;> simp [after]

/-- The lines of a sequence in two parts are those of the first, then those of the second behind
what the first leaves unfinished. -/
theorem after_split_append (terminator : α) (pending first second : List α) :
    (split terminator (first ++ second)).after pending =
      let lines := (split terminator first).after pending
      let later := (split terminator second).after lines.rest
      ⟨lines.complete ++ later.complete, later.rest⟩ := by
  induction first generalizing pending with
  | nil => simp [after]
  | cons a first ih =>
    simp only [List.cons_append, split_cons, after_cons]
    split
    · have hrest := ih []
      simp only [after_nil] at hrest
      simp [hrest]
    · exact ih (pending ++ [a])

theorem split_append (terminator : α) (first second : List α) :
    split terminator (first ++ second) =
      let lines := split terminator first
      let later := (split terminator second).after lines.rest
      ⟨lines.complete ++ later.complete, later.rest⟩ := by
  have hboth := after_split_append terminator [] first second
  rwa [after_nil, after_nil] at hboth

end BenchRelay.Lines
