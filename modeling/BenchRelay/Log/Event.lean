import BenchRelay.Failure

/-!
# Log events

What a worker reports about itself. Each event has a level, a part of the worker that it comes from,
and one line of text. Elapsed times are not part of an event; a star stands for them.
-/

namespace BenchRelay

/-- How important an event is, the most important first. -/
inductive Level where
  | error
  | warn
  | info
  | debug
  | trace
  deriving Repr, DecidableEq

namespace Level

/-- The name of a level. -/
def name : Level → Text
  | .error => "ERROR"
  | .warn => "WARN"
  | .info => "INFO"
  | .debug => "DEBUG"
  | .trace => "TRACE"

/-- How many levels are as important or more. -/
def verbosity : Level → Nat
  | .error => 1
  | .warn => 2
  | .info => 3
  | .debug => 4
  | .trace => 5

end Level

/-- Something worth a line in the log. -/
inductive Event where
  /-- There is no config file at a path. -/
  | configAbsent (path : Text)
  /-- The worker begins to wait for signals. -/
  | workerStarted
  /-- A frame of input asks for a run. -/
  | signalReceived (frameBytes : Nat)
  /-- The input stream ended after a number of runs. -/
  | streamClosed (runs : Nat)
  /-- Nobody can send signals any more, after a number of runs. -/
  | channelClosed (runs : Nat)
  /-- A run begins. -/
  | runStarted (benchmark : Text)
  /-- The benchmark of a run came to its end without failing. -/
  | runFinished (benchmark : Text)
  /-- A child program ended. -/
  | childExited (command : Text) (status : ExitStatus)
  /-- The output of a child program could not be passed on. -/
  | forwardingFailed (command : Text) (error : RunError)
  deriving Repr, DecidableEq

namespace Event

/-- How important an event is. -/
def level : Event → Level
  | .configAbsent _ | .signalReceived _ | .childExited .. => .debug
  | .forwardingFailed .. => .warn
  | .workerStarted | .streamClosed _ | .channelClosed _ | .runStarted _ | .runFinished _ => .info

/-- The part of the worker that an event comes from. -/
def target : Event → Text
  | .configAbsent _ => "benchworker::config::loader"
  | .workerStarted | .signalReceived _ | .streamClosed _ | .channelClosed _ => "benchworker::worker"
  | .runStarted _ | .runFinished _ => "benchworker::trigger"
  | .childExited .. | .forwardingFailed .. => "benchworker::payload::process"

/-- What an event says; `quote` writes the name of the benchmark in run events. -/
def body (quote : Text → Text) : Event → Text
  | .configAbsent path => "No config file, using defaults path=" ++ path
  | .workerStarted => "Worker started"
  | .signalReceived n => "Run signal received frame_bytes=" ++ Text.decimal n
  | .streamClosed runs => "Signal stream closed runs=" ++ Text.decimal runs
  | .channelClosed runs => "Signal channel closed runs=" ++ Text.decimal runs
  | .runStarted benchmark => "Run benchmark... payload=" ++ quote benchmark
  | .runFinished benchmark => "Benchmark finished payload=" ++ quote benchmark ++ " elapsed_ms=*"
  | .childExited command status =>
    "Payload exited payload=" ++ command ++ " status=" ++ status.text
  | .forwardingFailed command error =>
    "Output forwarding failed, killing payload payload=" ++ command ++ " error=" ++ error.message

/-- An event as level and body, with every value written plainly. -/
def summary (event : Event) : Text := event.level.name ++ " " ++ event.body id

end Event

end BenchRelay
