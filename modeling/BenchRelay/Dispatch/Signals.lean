import BenchRelay.Runner

/-!
# Serving queued signals

Every signal in a queue asks for one run. When all are served the service ends if nobody can send
another, and otherwise waits. The first run that fails ends it.
-/

namespace BenchRelay

namespace Signals

/-- How far a service got. -/
inductive Progress where
  /-- It ended: the number of runs, or the failure of one. -/
  | ended (result : Except RunError Nat)
  /-- All signals were served and more may come. -/
  | waiting

/-- What serving came to: how far it got, the runner, and the log. -/
structure Served (η : Type) where
  progress : Progress
  after : η
  log : List Event

variable {η : Type} [Runner η]

/-- Serve a number of queued signals, counting on from `runs`. -/
def serveFrom (runner : η) (runs : Nat) (closed : Bool) : Nat → Served η
  | 0 =>
    if closed then ⟨.ended (.ok runs), runner, [.channelClosed runs]⟩
    else ⟨.waiting, runner, []⟩
  | queued + 1 =>
    let report := Runner.run runner
    match report.outcome with
    | .error error => ⟨.ended (.error error), report.after, report.log⟩
    | .ok () =>
      let served := serveFrom report.after (runs + 1) closed queued
      { served with log := report.log ++ served.log }

/-- Serve all queued signals; `closed` says that nobody can send another. -/
def serve (runner : η) (queued : Nat) (closed : Bool) : Served η :=
  let served := serveFrom runner 0 closed queued
  { served with log := .workerStarted :: served.log }

end Signals

end BenchRelay
