import BenchRelay.Payload.Activity
import BenchRelay.Text.Decoder

/-!
# Child programs as benchmarks

A run starts a child program, decodes what it prints as it arrives and writes every non-empty text
to the outlet, the bytes held back at the end of output last. If a text is not taken the child is
killed and its exit status never asked for. Otherwise the run succeeds when the child ends well.

How a child comes about is left open: a `launch` gives, from the state of the world, what became of
starting the child, with everything that it then prints, and the state after it.
-/

namespace BenchRelay

/-- What one read of a child's output brings. -/
inductive Delivery where
  /-- Some bytes. -/
  | bytes (b : Bytes)
  /-- Nothing, as the read was interrupted. -/
  | interrupted
  /-- An error. -/
  | failed (reason : Text)
  deriving Repr, DecidableEq

/-- All that a worker sees of a child: the reads until the end of output, and how it ended. -/
structure Child where
  reads : List Delivery
  status : ExitStatus
  deriving Repr, DecidableEq

/-- What becomes of starting a child. -/
inductive Launch where
  /-- The working directory is no directory. -/
  | missingDirectory (directory : Text)
  /-- The operating system refuses. -/
  | refused (reason : Text)
  /-- The child runs, but there is no room for as many bytes as are to be read at once. -/
  | noRoom (bytes : Nat)
  /-- The child runs. -/
  | started (child : Child)
  deriving Repr, DecidableEq

namespace Child

variable {μ : Type}

/-- Give up on a child whose output cannot be passed on. -/
def abandon (command : Text) (memory : μ) (error : RunError) : Activity μ :=
  .log (.forwardingFailed command error) (.finish (.error error) memory)

/-- Judge a child by how it ended. -/
def conclude (command : Text) (memory : μ) (status : ExitStatus) : Activity μ :=
  .log (.childExited command status)
    (.finish (if status.isSuccess then .ok () else .error (.child (.exit command status))) memory)

/-- Write a text, and go on if it was taken. -/
def putOr (giveUp : RunError → Activity μ) (text : Text) (next : Activity μ) : Activity μ :=
  .put text fun
    | .ok () => next
    | .error error => giveUp (.sink error)

/-- Write the output as it is read, and what the decoder holds back at the end. -/
def pump (giveUp : RunError → Activity μ) (next : Activity μ) :
    Decoder → List Delivery → Activity μ
  | decoder, [] => if decoder.holdsBytes then putOr giveUp decoder.flush.1 next else next
  | decoder, .interrupted :: reads => pump giveUp next decoder reads
  | _, .failed reason :: _ => giveUp (.child (.read reason))
  | decoder, .bytes b :: reads =>
    let (text, decoder) := decoder.feed b
    if text.isEmpty then pump giveUp next decoder reads
    else putOr giveUp text (pump giveUp next decoder reads)

/-- What a run of a started child does. -/
def activity (command : Text) (memory : μ) (child : Child) : Activity μ :=
  pump (abandon command memory) (conclude command memory child.status) {} child.reads

/-- A child program as a benchmark. -/
def payload (command : Text) (launch : μ → Launch × μ) : Payload μ where
  name := command
  main memory :=
    match launch memory with
    | (.missingDirectory directory, memory) =>
      .finish (.error (.child (.missingDirectory directory))) memory
    | (.refused reason, memory) => .finish (.error (.child (.spawn command reason))) memory
    | (.noRoom bytes, memory) => .finish (.error (.child (.noRoom bytes))) memory
    | (.started child, memory) => activity command memory child

end Child

end BenchRelay
