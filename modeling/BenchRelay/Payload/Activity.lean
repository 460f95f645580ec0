import BenchRelay.Log.Event
import BenchRelay.Relay

/-!
# What a benchmark does in a run

A benchmark is known by what it does, not by how: it writes output and sees each time whether that
worked, it logs, and it comes to an end. `Activity` is the tree of all its doings, and running it
against an outlet follows one path through the tree. A payload is a benchmark with a name and a
memory of its own that lasts from run to run.
-/

namespace BenchRelay

/-- What one run of a benchmark does, and its memory afterwards. -/
inductive Activity (μ : Type) where
  /-- End the run. -/
  | finish (outcome : Except RunError Unit) (memory : μ)
  /-- Log an event and go on. -/
  | log (event : Event) (next : Activity μ)
  /-- Write output and go on by whether it was taken. -/
  | put (text : Text) (next : Except SinkError Unit → Activity μ)

/-- What a run came to. -/
structure Execution (μ η : Type) where
  outcome : Except RunError Unit
  memory : μ
  outlet : η
  log : List Event

namespace Activity

variable {μ η : Type} [Outlet η]

/-- Do everything in order, writing to an outlet. -/
def run : Activity μ → η → Execution μ η
  | .finish outcome memory, outlet => ⟨outcome, memory, outlet, []⟩
  | .log event next, outlet =>
    let execution := next.run outlet
    { execution with log := event :: execution.log }
  | .put text next, outlet =>
    let (taken, outlet) := Outlet.put outlet text
    (next taken).run outlet

end Activity

/-- A benchmark with the name that logs give it. -/
structure Payload (μ : Type) where
  name : Text
  /-- What a run does from a given memory. -/
  main : μ → Activity μ

end BenchRelay
