import BenchRelay.Payload.Command
import BenchRelay.Proofs.ChildRun
import BenchRelay.Proofs.ServedFrames
import BenchRelay.Proofs.SessionRuns

/-!
# What a served worker prints

A worker that starts a child for every frame of its input prints the lines of every child, the first
behind what the children before left unfinished, and after each child that ends well that its run is
done. It goes on up to the first child that ends badly.
-/

namespace BenchRelay

namespace Child

/-- The bytes that a read brings. -/
def content : Delivery → Bytes
  | .bytes b => b
  | .interrupted | .failed _ => []

/-- The bytes that a child prints. -/
def output (child : Child) : Bytes := child.reads.flatMap content

/-- Whether a child ends badly. -/
def endsBadly (child : Child) : Bool := !child.status.isSuccess

/-- What is unfinished after a child: its own tail, behind what was unfinished before it unless it
prints a newline. -/
def leave (pending : Text) (child : Child) : Text :=
  let tail := (Utf8.lossyLines child.output).rest
  if Message.newline ∈ child.output then tail else pending ++ tail

/-- The tails that children leave since the last newline, each read by itself. -/
def unfinished (children : List Child) : Text := children.foldl leave []

/-- The messages of one run behind earlier ones. -/
def messages (earlier : List Child) (child : Child) : List Message :=
  ((Utf8.lossyLines child.output).after (unfinished earlier)).complete.map .stdout ++
    if child.endsBadly then [] else [.done]

/-- The messages of runs one after another behind earlier ones. -/
def transcript (earlier : List Child) : List Child → List Message
  | [] => []
  | child :: later => messages earlier child ++ transcript (earlier ++ [child]) later

variable {μ : Type}

end Child

namespace Session

variable {μ : Type}

variable {program : Text} {launch : μ → Launch × μ} {before : Bytes} {earlier : List Child}
  {messages : List Message} {session : Session μ Writer}

end Session

namespace Frames

variable {μ : Type}

end Frames

end BenchRelay
