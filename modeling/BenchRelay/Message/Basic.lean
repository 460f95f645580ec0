import BenchRelay.Text.Basic

/-!
# Messages

What a worker tells its host: a line of benchmark output, without its newline, or that a run is
over.
-/

namespace BenchRelay

/-- One message from the worker to the host. -/
inductive Message where
  /-- A completed line of output. -/
  | stdout (data : Text)
  /-- The end of a run. -/
  | done
  deriving Repr, DecidableEq

/-- Whether a message is the end of a run. -/
def Message.isDone : Message → Bool
  | .done => true
  | .stdout _ => false

end BenchRelay
