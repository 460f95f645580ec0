import BenchRelay.Link
import BenchRelay.Proofs.DispatchLoops

/-!
# What is done to a link

Everything that can be done to an end of a link: to use it, to clone it, to drop it, or to serve the
queued signals, with a runner that may post to a clone of a sink. Such a runner serves as any other,
and what its runs post is all that it does to the link.
-/

namespace BenchRelay

namespace Outbox

/-- An outbox holds what it delivered behind what it held before. -/
theorem keeps (received : Bool) (waiting : List Message) :
    Sink.Keeps (fun outbox : Outbox => fun messages => outbox = ⟨received, waiting ++ messages⟩)
      (· = .ok ()) where
  arrived := by
    rintro _ messages message rfl harrives
    cases received <;> simp_all [Sink.post, post]
  lost := by
    rintro _ messages message rfl hlost
    cases received <;> simp_all [Sink.post, post]

theorem afterPosts_eq (outbox : Outbox) (messages : List Message) :
    Sink.afterPosts outbox messages =
      { outbox with waiting := outbox.waiting ++ Sink.delivered outbox messages } :=
  (keeps outbox.received outbox.waiting).holds_delivered (by rw [List.append_nil]) messages

/-- All messages are delivered while the receiver is there, and none afterwards. -/
theorem delivered_eq (outbox : Outbox) (messages : List Message) :
    Sink.delivered outbox messages = if outbox.received then messages else [] := by
  induction messages generalizing outbox with
  | nil => simp [Sink.delivered]
  | cons message rest ih =>
    rw [Sink.delivered, ih]
    cases hreceived : outbox.received <;> simp [Sink.post, post, hreceived]

end Outbox

/-- A runner that posts to a clone of a sink of a link, and does nothing else to the link. -/
structure Link.Handler (η : Type) [Runner η] where
  /-- The runner with its clone. -/
  start : Outbox → η
  /-- What the clone leads to. -/
  outbox : η → Outbox
  /-- What the next run posts. -/
  posts : η → List Message
  outbox_start : ∀ box, outbox (start box) = box
  outbox_run : ∀ runner, outbox (Runner.run runner).after =
    Sink.afterPosts (outbox runner) (posts runner)

namespace Link

namespace Handler

variable {η : Type} [Runner η]

/-- What a number of runs post. -/
def postedIn (handler : Handler η) (runner : η) (n : ℕ) : List Message :=
  (List.range n).flatMap fun k => handler.posts (Runner.afterRuns runner k)

theorem outbox_afterRuns (handler : Handler η) (runner : η) (n : ℕ) :
    handler.outbox (Runner.afterRuns runner n) =
      Sink.afterPosts (handler.outbox runner) (handler.postedIn runner n) := by
  induction n with
  | zero => rfl
  | succ n ih =>
    rw [Runner.afterRuns, handler.outbox_run, ih, ← Sink.afterPosts_append, postedIn, postedIn,
      List.range_succ, List.flatMap_append, List.flatMap_singleton]

end Handler

/-- A session posts to its sink. -/
def sessionHandler {μ : Type} (payload : Payload μ) (memory : μ) : Handler (Session μ Outbox) where
  start := Session.fresh payload memory
  outbox session := session.relay.sink
  posts := Session.posted
  outbox_start _ := rfl
  outbox_run := Session.sink_run

/-- Serve the queued signals with a runner on a clone of a sink; `none` if that or the worker's
signal receiver is gone. -/
def serveOn {η : Type} [Runner η] (link : Link) (sink : ℕ) (handler : Handler η) :
    Option (Signals.Served η) × Link :=
  if link.hasSink sink then
    match link.serve (handler.start link.outbox) with
    | (some served, link) => (some served, { link with outbox := handler.outbox served.after })
    | (none, link) => (none, link)
  else (none, link)

/-- One thing that is done to an end of a link. -/
inductive Step : Type 1 where
  | requestRun
  | receive
  | closeSignals
  | dropHost
  | post (sink : ℕ) (message : Message)
  | cloneSink (sink : ℕ)
  | dropSink (sink : ℕ)
  | dropSignals
  /-- Serve with a runner that has no clone of a sink. -/
  | serve {η : Type} [Runner η] (runner : η)
  | serveOn (sink : ℕ) {η : Type} [Runner η] (handler : Handler η)

/-- What came of a step. -/
inductive Answer where
  | requested (outcome : Option Requested)
  | received (outcome : Option Received)
  | posted (outcome : Option (Except SinkError Unit))
  /-- Whether the end was still there. -/
  | done (was : Bool)
  | served (progress : Option Signals.Progress)

/-- Do one step. -/
def step (link : Link) : Step → Answer × Link
  | .requestRun => link.requestRun.map .requested id
  | .receive => link.receive.map .received id
  | .closeSignals => link.closeSignals.map .done id
  | .dropHost => (.done true, link.dropHost)
  | .post sink message => (link.post sink message).map .posted id
  | .cloneSink sink => (link.cloneSink sink).map .done id
  | .dropSink sink => (link.dropSink sink).map .done id
  | .dropSignals => link.dropSignals.map .done id
  | @Step.serve _ _ runner =>
    (link.serve runner).map (fun served => .served (served.map (·.progress))) id
  | @Step.serveOn sink _ _ handler =>
    (link.serveOn sink handler).map (fun served => .served (served.map (·.progress))) id

/-- What a step posts, delivered or not. -/
@[simp] def attempts (link : Link) : Step → List Message
  | .post sink message => if link.hasSink sink then [message] else []
  | @Step.serveOn sink _ _ handler =>
    if link.hasSink sink && link.workerListens then
      let runner := handler.start link.outbox
      handler.postedIn runner (Runner.ask runner link.signals).calls
    else []
  | _ => []

namespace Answer

/-- The received message, if it is one. -/
@[simp] def messages : Answer → List Message
  | .received (some (.message message)) => [message]
  | _ => []

/-- Whether a signal was queued. -/
@[simp] def isSent : Answer → Bool
  | .requested (some .sent) => true
  | _ => false

/-- Whether what was to be done could be done, for better or worse. -/
@[simp] def isDone : Answer → Bool
  | .requested outcome => outcome.isSome
  | .received outcome => outcome.isSome
  | .posted outcome => outcome.isSome
  | .done was => was
  | .served progress => progress.isSome

theorem messages_of_not_isDone {answer : Answer} (h : answer.isDone = false) :
    answer.messages = [] := by
  cases answer with
  | received outcome =>
    obtain rfl : outcome = none := by simpa using h
    rfl
  | _ => rfl

theorem isSent_of_not_isDone {answer : Answer} (h : answer.isDone = false) :
    answer.isSent = false := by
  cases answer with
  | requested outcome =>
    obtain rfl : outcome = none := by simpa using h
    rfl
  | _ => rfl

end Answer

section Serve

variable {η : Type} [Runner η] {link : Link}

theorem serve_of_listens (h : link.workerListens = true) (runner : η) :
    link.serve runner = (some (Signals.serve runner link.signals !link.hostSends),
      { link with workerListens := false, signals := 0 }) := by
  simp only [serve, h, if_true, dropSignals]

theorem serve_of_not_listens (h : link.workerListens = false) (runner : η) :
    link.serve runner = (none, link) := by
  simp only [serve, h, Bool.false_eq_true, if_false]

/-- A runner on a clone of a sink serves as any other, and what its clone leads to then is the
outbox of the link. -/
theorem serveOn_of_listens {sink : ℕ} (hsink : link.hasSink sink = true)
    (h : link.workerListens = true) (handler : Handler η) :
    let served := Signals.serve (handler.start link.outbox) link.signals !link.hostSends
    link.serveOn sink handler = (some served, { link with
      workerListens := false
      signals := 0
      outbox := handler.outbox served.after }) := by
  simp only [serveOn, hsink, if_true, serve_of_listens h]

/-- What the clone leads to when all is served is what the posts of the runs leave. -/
theorem outbox_serve {sink : ℕ} (hsink : link.hasSink sink = true)
    (h : link.workerListens = true) (handler : Handler η) (closed : Bool) :
    handler.outbox (Signals.serve (handler.start link.outbox) link.signals closed).after =
      Sink.afterPosts link.outbox (link.attempts (.serveOn sink handler)) := by
  rw [(Signals.serve_eq_ask _ _ _).2, Runner.ask_after, handler.outbox_afterRuns,
    handler.outbox_start]
  simp only [attempts, hsink, h, Bool.and_self, if_true]

theorem serveOn_of_gone {sink : ℕ}
    (h : (link.hasSink sink && link.workerListens) = false) (handler : Handler η) :
    link.serveOn sink handler = (none, link) := by
  cases hsink : link.hasSink sink with
  | false => simp only [serveOn, hsink, Bool.false_eq_true, if_false]
  | true =>
    rw [hsink, Bool.true_and] at h
    simp only [serveOn, hsink, if_true, serve_of_not_listens h]

/-- To serve with a session on a clone of a sink is a step. -/
theorem serveSession_eq_serveOn {μ : Type} {sink : ℕ} (hsink : link.hasSink sink = true)
    (payload : Payload μ) (memory : μ) :
    link.serveSession payload memory = link.serveOn sink (sessionHandler payload memory) := by
  cases hlistens : link.workerListens with
  | false =>
    simp only [serveSession, serveOn, hsink, if_true, serve_of_not_listens hlistens]
  | true =>
    simp only [serveSession, serveOn, hsink, if_true, serve_of_listens hlistens]
    rfl

end Serve

end Link

end BenchRelay
