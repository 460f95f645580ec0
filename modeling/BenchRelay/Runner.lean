import BenchRelay.Log.Event

/-!
# Runners

A runner is anything that can be asked for a run. It answers with the outcome and the events it
logged, and is a new runner afterwards.
-/

namespace BenchRelay

/-- What came of asking for a run. -/
structure Report (η : Type) where
  outcome : Except RunError Unit
  after : η
  log : List Event

/-- Something that can be asked for a run. -/
class Runner (η : Type) where
  /-- Run once. -/
  run : η → Report η

/-- A runner that does nothing but count, and fails at the runs that a condition names. -/
structure Tally where
  /-- Which runs fail, by number from 1. -/
  fails : Nat → Bool := fun _ => false
  /-- How many runs were asked for. -/
  calls : Nat := 0

/-- Count a run. -/
def Tally.run (tally : Tally) : Report Tally :=
  let calls := tally.calls + 1
  { outcome :=
      if tally.fails calls then .error (.other ("run " ++ Text.decimal calls ++ " failed"))
      else .ok ()
    after := { tally with calls }
    log := [] }

instance : Runner Tally := ⟨Tally.run⟩

end BenchRelay
