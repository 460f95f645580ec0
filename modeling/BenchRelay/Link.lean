import BenchRelay.Dispatch.Signals
import BenchRelay.Session

/-!
# The link between a host and a worker in one process

A host sends run signals to a worker through a bounded queue and receives its messages through an
unbounded one. Every end of the link can go away by itself: the host as a whole or just its sending
end, the worker's signal receiver, and each of the sinks that the worker posts to. Sinks are
numbered; number 0 is the worker's own and its clones follow. What needs an end that is gone is not
done at all, which is told apart from what is done and fails.
-/

namespace BenchRelay

/-- The queue of messages from all sinks of a link. -/
structure Outbox where
  /-- Whether the receiver is still there. -/
  received : Bool := true
  /-- The messages not yet received, the oldest first. -/
  waiting : List Message := []
  deriving Repr, DecidableEq

/-- Queue a message while the receiver is there. -/
def Outbox.post (outbox : Outbox) (message : Message) : Except SinkError Unit × Outbox :=
  if outbox.received then (.ok (), { outbox with waiting := outbox.waiting ++ [message] })
  else (.error .disconnected, outbox)

instance : Sink Outbox := ⟨Outbox.post⟩

/-- Both ends of a link and what is queued between them. -/
structure Link where
  /-- Whether the host can still send signals. -/
  hostSends : Bool := true
  /-- Whether the worker can still receive signals. -/
  workerListens : Bool := true
  /-- How many signals are queued. -/
  signals : Nat := 0
  outbox : Outbox := {}
  /-- For each sink ever made, whether it is still there. -/
  sinks : List Bool := [true]
  deriving Repr, DecidableEq

namespace Link

/-- How many signals fit into the queue. -/
def signalCapacity : Nat := 16

/-- What came of asking for a run. -/
inductive Requested where
  /-- The signal is queued. -/
  | sent
  /-- The queue is full, and the signal is not sent. -/
  | wouldBlock
  /-- The worker receives no more signals. -/
  | refused
  deriving Repr, DecidableEq

/-- What came of receiving a message. -/
inductive Received where
  | message (message : Message)
  /-- No message is queued. -/
  | empty
  /-- No message is queued and no sink is left. -/
  | closed
  deriving Repr, DecidableEq

/-- Whether a sink is still there. -/
def hasSink (link : Link) (sink : Nat) : Bool := link.sinks[sink]?.getD false

/-- Ask for a run; `none` if the host's sending end is gone. -/
def requestRun (link : Link) : Option Requested × Link :=
  if !link.hostSends then (none, link)
  else if !link.workerListens then (some .refused, link)
  else if link.signals < signalCapacity then
    (some .sent, { link with signals := link.signals + 1 })
  else (some .wouldBlock, link)

/-- Receive the next message; `none` if the receiver is gone. -/
def receive (link : Link) : Option Received × Link :=
  if !link.outbox.received then (none, link)
  else match link.outbox.waiting with
    | message :: waiting =>
      (some (.message message), { link with outbox := { link.outbox with waiting } })
    | [] => (some (if link.sinks.any id then .empty else .closed), link)

/-- Give up sending signals and keep receiving; `false` if the host is gone. -/
def closeSignals (link : Link) : Bool × Link :=
  (link.hostSends, { link with hostSends := false })

/-- Drop the host with all that it holds. -/
def dropHost (link : Link) : Link :=
  { link with hostSends := false, outbox := { received := false } }

/-- Post to a sink; `none` if it is gone. -/
def post (link : Link) (sink : Nat) (message : Message) :
    Option (Except SinkError Unit) × Link :=
  if link.hasSink sink then
    let (outcome, outbox) := link.outbox.post message
    (some outcome, { link with outbox })
  else (none, link)

/-- Add a clone of a sink; `false` if it is gone. -/
def cloneSink (link : Link) (sink : Nat) : Bool × Link :=
  if link.hasSink sink then (true, { link with sinks := link.sinks ++ [true] }) else (false, link)

/-- Drop a sink; `false` if it is gone. -/
def dropSink (link : Link) (sink : Nat) : Bool × Link :=
  if link.hasSink sink then (true, { link with sinks := link.sinks.set sink false })
  else (false, link)

/-- Drop the worker's signal receiver; `false` if it is gone. -/
def dropSignals (link : Link) : Bool × Link :=
  (link.workerListens, { link with workerListens := false, signals := 0 })

/-- Serve the queued signals, using up the worker's signal receiver; `none` if it is gone. -/
def serve {η : Type} [Runner η] (link : Link) (runner : η) : Option (Signals.Served η) × Link :=
  if link.workerListens then
    (some (Signals.serve runner link.signals !link.hostSends), link.dropSignals.2)
  else (none, link)

/-- Serve the queued signals with a session that posts to a clone of one of the sinks. -/
def serveSession {μ : Type} (link : Link) (payload : Payload μ) (memory : μ) :
    Option (Signals.Served (Session μ Outbox)) × Link :=
  match link.serve { payload, memory, relay := { sink := link.outbox } : Session μ Outbox } with
  | (some served, link) => (some served, { link with outbox := served.after.relay.sink })
  | (none, link) => (none, link)

end Link

end BenchRelay
