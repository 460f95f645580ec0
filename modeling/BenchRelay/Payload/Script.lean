import BenchRelay.Payload.Activity

/-!
# Scripted benchmarks

A scripted benchmark does what a list of steps says. It may have several such lists and takes them
in turn, one per run; its memory is the number of runs so far.
-/

namespace BenchRelay.Script

/-- One thing that a scripted run does. -/
inductive Step where
  /-- Write output and fail if it is not taken. -/
  | put (text : Text)
  /-- Write output whether it is taken or not. -/
  | tryPut (text : Text)
  /-- Fail. -/
  | fail (reason : Text)
  deriving Repr, DecidableEq

/-- Follow the steps of one run. -/
def activity {μ : Type} (memory : μ) : List Step → Activity μ
  | [] => .finish (.ok ()) memory
  | .put text :: rest => .put text fun
    | .ok () => activity memory rest
    | .error error => .finish (.error (.sink error)) memory
  | .tryPut text :: rest => .put text fun _ => activity memory rest
  | .fail reason :: _ => .finish (.error (.other reason)) memory

/-- The steps of run number `n`, counted from 0. Without any list every run is empty. -/
def stepsOf (runs : List (List Step)) (n : Nat) : List Step :=
  (runs[n % runs.length]?).getD []

/-- A benchmark that follows the given lists in turn. -/
def payload (name : Text) (runs : List (List Step)) : Payload Nat :=
  { name, main := fun n => activity (n + 1) (stepsOf runs n) }

end BenchRelay.Script
