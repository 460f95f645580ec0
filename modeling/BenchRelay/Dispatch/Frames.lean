import BenchRelay.Runner
import BenchRelay.Text.Lines

/-!
# Serving a stream of frames

Every frame of an input stream asks for one run, whatever it holds. A frame ends at a newline byte;
at the end of the stream a non-empty rest is a frame too, but not where reading fails. The stream
arrives in chunks, and the frames that a chunk completes are served before the next is read. The
first run that fails ends the service.
-/

namespace BenchRelay

/-- How an input stream ends. -/
inductive InputEnd where
  /-- There are no more bytes. -/
  | closed
  /-- Reading fails. -/
  | failed (reason : Text)
  deriving Repr, DecidableEq

/-- Why serving a stream failed. -/
inductive ServeError where
  /-- Reading the stream failed. -/
  | input (reason : Text)
  /-- A run failed. -/
  | run (error : RunError)
  deriving Repr, DecidableEq

/-- The wording of a failed service: that of its cause. -/
def ServeError.message : ServeError → Text
  | .input reason => reason
  | .run error => error.message

/-- What serving came to: the number of runs or a failure, the runner, and the log. -/
structure Served (η : Type) where
  result : Except ServeError Nat
  after : η
  log : List Event

namespace Frames

/-- The byte that ends a frame. -/
def terminator : UInt8 := 0x0A

/-- A frame without one carriage return at its end. -/
def withoutReturn (frame : Bytes) : Bytes :=
  if frame.getLast? = some 0x0D then frame.dropLast else frame

variable {η : Type} [Runner η]

/-- Run once per frame, counting on from `runs`, up to the first failure. -/
def runEach (runner : η) (runs : Nat) : List Bytes → Served η
  | [] => ⟨.ok runs, runner, []⟩
  | frame :: rest =>
    let received := Event.signalReceived (withoutReturn frame).length
    let report := Runner.run runner
    match report.outcome with
    | .error error => ⟨.error (.run error), report.after, received :: report.log⟩
    | .ok () =>
      let served := runEach report.after (runs + 1) rest
      { served with log := received :: report.log ++ served.log }

/-- Serve the end of a stream behind an unfinished frame. -/
def serveEnd (runner : η) (runs : Nat) (rest : Bytes) : InputEnd → Served η
  | .failed reason => ⟨.error (.input reason), runner, []⟩
  | .closed =>
    let served := runEach runner runs (if rest.isEmpty then [] else [rest])
    match served.result with
    | .error _ => served
    | .ok runs => { served with log := served.log ++ [.streamClosed runs] }

/-- Serve what remains of a stream behind an unfinished frame. -/
def serveFrom (runner : η) (runs : Nat) (rest : Bytes) : List Bytes → InputEnd → Served η
  | [], ending => serveEnd runner runs rest ending
  | chunk :: chunks, ending =>
    let lines := (Lines.split terminator chunk).after rest
    let served := runEach runner runs lines.complete
    match served.result with
    | .error _ => served
    | .ok runs =>
      let later := serveFrom served.after runs lines.rest chunks ending
      { later with log := served.log ++ later.log }

/-- Serve a stream that arrives in chunks. -/
def serve (runner : η) (chunks : List Bytes) (ending : InputEnd) : Served η :=
  let served := serveFrom runner 0 [] chunks ending
  { served with log := .workerStarted :: served.log }

end Frames

end BenchRelay
