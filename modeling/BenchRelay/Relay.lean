import BenchRelay.Sink.Basic
import BenchRelay.Text.Lines

/-!
# The line relay

A relay takes output text in pieces of any size and posts each completed line to its sink. The text
after the last newline is pending; it begins the next line. When a line is not delivered the write
ends there: that line, what was pending, and the rest of the written text are gone.
-/

namespace BenchRelay

/-- What benchmark output is written to. -/
class Outlet (η : Type) where
  /-- Write a piece of output. -/
  put : η → Text → Except SinkError Unit × η

/-- A sink with the output that is not yet a line. -/
structure Relay (σ : Type) where
  sink : σ
  /-- The output since the last newline. -/
  pending : Text := []

namespace Relay

variable {σ : Type} [Sink σ]

/-- Post every line that a piece of text completes. -/
def write (relay : Relay σ) (text : Text) : Except SinkError Unit × Relay σ :=
  let lines := (Lines.split '\n' text).after relay.pending
  match Sink.postAll relay.sink (lines.complete.map .stdout) with
  | (.ok (), sink) => (.ok (), ⟨sink, lines.rest⟩)
  | (.error error, sink) => (.error error, ⟨sink, []⟩)

/-- Post a message past the pending text. -/
def post (relay : Relay σ) (message : Message) : Except SinkError Unit × Relay σ :=
  let (outcome, sink) := Sink.post relay.sink message
  (outcome, { relay with sink })

instance : Outlet (Relay σ) := ⟨write⟩

end Relay

end BenchRelay
