import Mathlib.Data.Nat.Notation

/-!
# Loops turn by turn

A loop is what one of its turns does with a state: another turn follows from a new state, or the
loop is over. An invariant that every turn keeps holds before each of them, and a loop that moves on
with every turn, within a limit, ends.
-/

namespace BenchRelay

/-- What one turn of a loop comes to. -/
inductive Turn (α β : Type) where
  /-- Another turn follows, from this state. -/
  | again (state : α)
  /-- The loop is over. -/
  | leave (result : β)
  deriving Repr, DecidableEq

namespace Turn

variable {α β : Type} {turn : α → Turn α β} {start : α}

/-- The states that a loop begins a turn in. -/
inductive Visits (turn : α → Turn α β) (start : α) : α → Prop
  | start : Visits turn start start
  | again {state next : α} (earlier : Visits turn start state) (h : turn state = .again next) :
      Visits turn start next

/-- A loop ends with a result that it leaves one of its turns with. -/
def Ends (turn : α → Turn α β) (start : α) (result : β) : Prop :=
  ∃ state, Visits turn start state ∧ turn state = .leave result

/-- What every turn of a loop does where an invariant holds: it keeps the invariant and moves a
position on that stays within a limit, or it leaves with a result of some kind. -/
structure Advances (turn : α → Turn α β) (invariant : α → Prop) (position : α → ℕ) (limit : ℕ)
    (results : β → Prop) : Prop where
  keeps : ∀ state next, invariant state → turn state = .again next → invariant next
  grows : ∀ state next, invariant state → turn state = .again next →
    position state < position next
  within : ∀ state, invariant state → position state ≤ limit
  leaves : ∀ state result, invariant state → turn state = .leave result → results result

variable {invariant : α → Prop} {position : α → ℕ} {limit : ℕ} {results : β → Prop}

/-- The invariant holds before every turn. -/
theorem Advances.visits (h : Advances turn invariant position limit results)
    (hstart : invariant start) {state : α} (hstate : Visits turn start state) :
    invariant state := by
  induction hstate with
  | start => exact hstart
  | again _ hturn ih => exact h.keeps _ _ ih hturn

/-- The loop ends. -/
theorem Advances.exists_ends (h : Advances turn invariant position limit results)
    (hstart : invariant start) : ∃ result, Ends turn start result := by
  -- The induction is on what is left up to the limit, for every state that the loop comes to.
  have hfrom (n : ℕ) (state : α) (hstate : Visits turn start state)
      (hn : limit - position state = n) : ∃ result, Ends turn start result := by
    induction n using Nat.strongRecOn generalizing state with
    | ind n ih =>
      cases hturn : turn state with
      | again next =>
        have hnext : Visits turn start next := .again hstate hturn
        have hgrows := h.grows state next (h.visits hstart hstate) hturn
        have hwithin := h.within next (h.visits hstart hnext)
        exact ih (limit - position next) (by omega) next hnext rfl
      | leave result => exact ⟨result, state, hstate, hturn⟩
  exact hfrom (limit - position start) start .start rfl

theorem Advances.results_of_ends (h : Advances turn invariant position limit results)
    (hstart : invariant start) {result : β} (hends : Ends turn start result) : results result := by
  obtain ⟨state, hstate, hturn⟩ := hends
  exact h.leaves state result (h.visits hstart hstate) hturn

/-- Where one result alone is possible the loop ends with it. -/
theorem Advances.ends_iff {only : β} (h : Advances turn invariant position limit (· = only))
    (hstart : invariant start) {result : β} : Ends turn start result ↔ result = only := by
  constructor
  · exact h.results_of_ends hstart
  · rintro rfl
    obtain ⟨found, hends⟩ := h.exists_ends hstart
    rwa [← h.results_of_ends hstart hends]

end Turn

end BenchRelay
