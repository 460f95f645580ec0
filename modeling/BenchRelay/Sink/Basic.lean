import BenchRelay.Failure
import BenchRelay.Message.Basic

/-!
# Sinks

A sink takes messages one at a time and either delivers a message or says why not. Posting may go on
after a failure; what then happens is the sink's own affair.
-/

namespace BenchRelay

/-- A place that messages are posted to. -/
class Sink (σ : Type) where
  /-- Post one message: whether it was delivered, and the sink afterwards. -/
  post : σ → Message → Except SinkError Unit × σ

namespace Sink

variable {σ : Type} [Sink σ]

/-- Post messages in order up to the first that is not delivered. -/
def postAll (sink : σ) : List Message → Except SinkError Unit × σ
  | [] => (.ok (), sink)
  | message :: rest =>
    match post sink message with
    | (.ok (), sink) => postAll sink rest
    | (.error error, sink) => (.error error, sink)

end Sink

end BenchRelay
