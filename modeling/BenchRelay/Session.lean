import BenchRelay.Payload.Activity
import BenchRelay.Runner

/-!
# Sessions

A session runs one benchmark again and again and relays its output. After a run that did not fail it
posts the message that the run is done and counts the run once that message is delivered. A failed
run posts nothing more. Output after the last newline stays pending from one run to the next.
-/

namespace BenchRelay

/-- Whether a run is going on. -/
inductive RunState where
  | idle
  | running
  deriving Repr, DecidableEq

/-- A benchmark, the relay of its output, and the count of completed runs. -/
structure Session (μ σ : Type) where
  payload : Payload μ
  memory : μ
  relay : Relay σ
  state : RunState := .idle
  /-- How many runs succeeded and were reported as done. -/
  completedRuns : Nat := 0

namespace Session

variable {μ σ : Type} [Sink σ]

/-- Report that the benchmark came to its end, behind what is already logged. -/
def complete (session : Session μ σ) (log : List Event) : Report (Session μ σ) :=
  match session.relay.post .done with
  | (.ok (), relay) =>
    { outcome := .ok ()
      after := { session with relay, completedRuns := session.completedRuns + 1, state := .idle }
      log }
  | (.error error, relay) =>
    { outcome := .error (.sink error)
      after := { session with relay, state := .idle }
      log }

/-- Run the benchmark to its end, then report it done. -/
def run (session : Session μ σ) : Report (Session μ σ) :=
  let session := { session with state := .running }
  let name := session.payload.name
  let execution := (session.payload.main session.memory).run session.relay
  let session := { session with memory := execution.memory, relay := execution.outlet }
  let log := .runStarted name :: execution.log
  match execution.outcome with
  | .ok () => session.complete (log ++ [.runFinished name])
  | .error error => { outcome := .error error, after := { session with state := .idle }, log }

instance : Runner (Session μ σ) := ⟨run⟩

end Session

end BenchRelay
