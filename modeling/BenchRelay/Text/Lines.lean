import BenchRelay.Text.Basic

/-!
# Lines

Cutting a sequence at a terminator gives its complete lines, each without the terminator, and the
rest after the last terminator. Text is cut at newline characters and input frames at newline
bytes, by the same function. `Lines.after` puts an earlier unfinished rest in front.
-/

namespace BenchRelay

/-- The complete lines of a sequence and what follows the last of them. -/
structure Lines (α : Type) where
  complete : List (List α)
  rest : List α
  deriving Repr, DecidableEq

namespace Lines

variable {α : Type} [DecidableEq α]

/-- Put one more element in front of lines that were already cut. -/
def cons (terminator a : α) (lines : Lines α) : Lines α :=
  if a = terminator then ⟨[] :: lines.complete, lines.rest⟩
  else match lines.complete with
    | [] => ⟨[], a :: lines.rest⟩
    | first :: more => ⟨(a :: first) :: more, lines.rest⟩

/-- Cut a sequence at every occurrence of the terminator. -/
def split (terminator : α) (sequence : List α) : Lines α :=
  sequence.foldr (cons terminator) ⟨[], []⟩

@[simp] theorem split_nil (terminator : α) : split terminator [] = ⟨[], []⟩ := rfl

@[simp] theorem split_cons (terminator a : α) (sequence : List α) :
    split terminator (a :: sequence) = cons terminator a (split terminator sequence) := rfl

omit [DecidableEq α] in
/-- Put an earlier unfinished rest in front: it begins the first line, or the rest if no line is
complete. -/
def after (pending : List α) (lines : Lines α) : Lines α :=
  match lines.complete with
  | [] => ⟨[], pending ++ lines.rest⟩
  | first :: more => ⟨(pending ++ first) :: more, lines.rest⟩

/-- Every line with its terminator, and then the rest, is the sequence that was cut. -/
def unsplit (terminator : α) (lines : Lines α) : List α :=
  lines.complete.flatMap (· ++ [terminator]) ++ lines.rest

theorem unsplit_cons (terminator a : α) (lines : Lines α) :
    unsplit terminator (cons terminator a lines) = a :: unsplit terminator lines := by
  unfold cons unsplit
  by_cases h : a = terminator
  · simp [h]
  · rcases lines with ⟨complete, rest⟩
    cases complete <;> simp [h]

@[simp] theorem unsplit_split (terminator : α) (sequence : List α) :
    unsplit terminator (split terminator sequence) = sequence := by
  induction sequence with
  | nil => rfl
  | cons a sequence ih => rw [split_cons, unsplit_cons, ih]

end Lines

end BenchRelay
