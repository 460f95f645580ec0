import BenchRelay.Proofs.LinkEnds

/-!
# Links after any steps

The ends of a link may be used, cloned and dropped in any order, and the worker may serve the queued
signals at any time. What a host receives is what was posted, in that order, and which ends are left
is known from the steps done so far, whatever came of them.
-/

namespace BenchRelay

namespace Link

/-- What was done from the start: the link, every step with its answer, and the messages whose posts
succeeded. -/
structure History where
  link : Link := {}
  events : List (Step × Answer) := []
  posted : List Message := []

namespace History

/-- Do one more step. -/
def next (history : History) (s : Step) : History :=
  let link := history.link
  { link := (link.step s).2
    events := history.events ++ [(s, (link.step s).1)]
    posted := history.posted ++ Sink.delivered link.outbox (link.attempts s) }

/-- Do some steps one after another on a new link. -/
def run (steps : List Step) : History := steps.foldl next {}

theorem run_append_singleton (steps : List Step) (s : Step) :
    run (steps ++ [s]) = (run steps).next s := by
  rw [run, List.foldl_append, List.foldl_cons, List.foldl_nil, ← run]

/-- What was received. -/
def received (history : History) : List Message := history.events.flatMap (·.2.messages)

/-- How many signals were queued. -/
def sent (history : History) : ℕ := history.events.countP (·.2.isSent)

/-- What is so after every history. -/
structure Accounted (steps : List Step) (history : History) : Prop where
  ends : history.link.ends = Ends.afterSteps steps
  fifo : history.link.outbox.received = true →
    history.received ++ history.link.outbox.waiting = history.posted
  signals : history.link.workerListens = true → history.link.signals = history.sent
  capacity : history.link.signals ≤ signalCapacity
  quiet : history.link.Quiet

theorem received_next (history : History) (s : Step) :
    (history.next s).received = history.received ++ (history.link.step s).1.messages := by
  rw [received, next, List.flatMap_append, List.flatMap_singleton, received]

theorem sent_next (history : History) (s : Step) :
    (history.next s).sent = history.sent + (history.link.step s).1.isSent.toNat := by
  rw [sent, next, List.countP_append, List.countP_singleton, sent]
  cases (history.link.step s).1.isSent <;> rfl

/-- One more step keeps the account. -/
theorem Accounted.next {steps : List Step} {history : History} (h : Accounted steps history)
    (s : Step) : Accounted (steps ++ [s]) (history.next s) := by
  have heffect := effect_of_step h.quiet s
  -- An end that is left now was there before.
  have hreceiver (hleft : (history.next s).link.ends.receiver = true) :
      history.link.ends.receiver = true := by
    rw [History.next, heffect.ends, Ends.receiver_after] at hleft
    exact hleft.1
  have hlistens (hleft : (history.next s).link.ends.signals = true) :
      history.link.ends.signals = true := by
    rw [History.next, heffect.ends] at hleft
    exact Ends.signals_of_after hleft
  constructor
  case ends => rw [Ends.afterSteps_append_singleton, ← h.ends, History.next, heffect.ends]
  case fifo =>
    intro hleft
    rw [received_next, List.append_assoc, History.next, heffect.waiting hleft, ← List.append_assoc,
      h.fifo (hreceiver hleft)]
  case signals =>
    intro hleft
    rw [sent_next, History.next, heffect.signals hleft, h.signals (hlistens hleft)]
  case capacity => exact heffect.capacity h.capacity
  case quiet => exact heffect.quiet

theorem accounted_run (steps : List Step) : Accounted steps (run steps) := by
  induction steps using List.reverseRecOn with
  | nil =>
    exact ⟨by rfl, fun _ => rfl, fun _ => rfl, Nat.zero_le _, fun _ => rfl⟩
  | append_singleton steps s ih =>
    rw [run_append_singleton]
    exact ih.next s

end History

/-- The next message received is the first posted that was not received yet. -/
theorem receive_of_accounted {steps : List Step} {history : History}
    (h : history.Accounted steps) (hreceived : history.link.outbox.received = true)
    (message : Message) : history.link.receive.1 = some (.message message) ↔
      history.posted[history.received.length]? = some message := by
  rw [receive_eq_message_iff hreceived, ← h.fifo hreceived,
    List.getElem?_append_right (Nat.le_refl _), Nat.sub_self, List.head?_eq_getElem?]

/-- Whatever was done to a new link, in whatever order. Which ends are left is known from the steps
alone: a sink is if it is the worker's own or was cloned from one that was left, and was not dropped
since. A step is done if the ends that it needs are left, and otherwise changes nothing.

While the receiver is there, what was received and what is still queued are the messages whose posts
succeeded, over all sinks and from all runners that served, in the order of their posts, and the
next to be received is the first of those that were not. A post to a sink that is left succeeds if
the receiver is, and receiving finds the end once nothing is queued and no sink is left. Asking for
a run is refused if the worker's signal receiver is gone, and otherwise adds to the queue unless
that has its 16 signals. Serving takes that receiver and asks for a run for each signal, up to the
first that fails, also with a runner on a clone of a sink; it waits for more only if the host can
send. -/
theorem steps_in_any_order (steps : List Step) :
    let history := History.run steps
    let link := history.link
    let ends := Ends.afterSteps steps
    (link.ends = ends ∧
      (∀ s, (link.step s).1.isDone = ends.allow s ∧
        (ends.allow s = false → (link.step s).2 = link)) ∧
      (ends.receiver = true ↔ .dropHost ∉ steps) ∧
      (ends.sender = true ↔ .closeSignals ∉ steps ∧ .dropHost ∉ steps) ∧
      ∀ sink, sink ∈ ends.sinks ↔ sink < ends.made ∧ ∀ before,
        before ++ [.dropSink sink] <+: steps → (Ends.afterSteps before).made ≤ sink) ∧
    (ends.receiver = true →
      history.received ++ link.outbox.waiting = history.posted ∧
      ∀ message, link.receive.1 = some (.message message) ↔
        history.posted[history.received.length]? = some message) ∧
    ((∀ sink ∈ ends.sinks, ∀ message, (link.post sink message).1 =
        some (if ends.receiver then .ok () else .error .disconnected)) ∧
      (∀ messages, Sink.delivered link.outbox messages =
        if ends.receiver then messages else []) ∧
      (ends.receiver = true → (link.receive.1 = some .closed ↔
        link.outbox.waiting = [] ∧ ends.sinks = ∅))) ∧
    ((ends.sender = true →
        (link.requestRun.1 = some .sent ↔ ends.signals = true ∧ link.signals < 16) ∧
        (link.requestRun.1 = some .refused ↔ ends.signals = false) ∧
        (link.requestRun.1 ≠ some .sent → link.requestRun.2 = link)) ∧
      link.signals ≤ 16 ∧ (ends.signals = true → link.signals = history.sent)) ∧
    (ends.signals = true → ∀ (η : Type) [Runner η],
      (∀ runner : η, ∃ served, link.serve runner = (some served, link.dropSignals.2) ∧
        served.progress = Signals.progressOf (!ends.sender)
          (Runner.ask runner link.signals).result ∧
        served.after = (Runner.ask runner link.signals).after) ∧
      ∀ (handler : Handler η), ∀ sink ∈ ends.sinks,
        let asked := Runner.ask (handler.start link.outbox) link.signals
        ∃ served, link.serveOn sink handler =
            (some served, { link.dropSignals.2 with outbox := handler.outbox served.after }) ∧
          served.progress = Signals.progressOf (!ends.sender) asked.result ∧
          served.after = asked.after) ∧
    ∀ (μ : Type) (payload : Payload μ) (memory : μ), ∀ sink ∈ ends.sinks,
      link.serveSession payload memory = link.serveOn sink (sessionHandler payload memory) := by
  intro history link ends
  have h := History.accounted_run steps
  have hends : link.ends = ends := h.ends
  refine ⟨⟨hends, fun s => ?_, Ends.receiver_afterSteps steps, Ends.sender_afterSteps steps,
    Ends.mem_sinks_afterSteps steps⟩, ?_⟩
  · rw [← hends]
    exact ⟨(effect_of_step h.quiet s).done, fun hgone => (step_of_gone h.quiet hgone).2⟩
  rw [← hends]
  refine ⟨fun hreceived => ⟨h.fifo hreceived, receive_of_accounted h hreceived⟩,
    ⟨fun _ hsink message => post_of_mem_sinks hsink message, link.outbox.delivered_eq,
      receive_eq_closed_iff⟩,
    ⟨requestRun_of_sender, h.capacity, h.signals⟩,
    fun hlistens η _ => ⟨fun runner => ?_, fun handler sink hsink => ?_⟩,
    fun μ payload memory sink hsink => serveSession_eq_serveOn (mem_sinks_ends.mp hsink) _ _⟩
  · obtain ⟨hprogress, hafter⟩ := Signals.serve_eq_ask runner link.signals !link.hostSends
    exact ⟨_, serve_of_listens hlistens runner, hprogress, hafter⟩
  · obtain ⟨hprogress, hafter⟩ :=
      Signals.serve_eq_ask (handler.start link.outbox) link.signals !link.hostSends
    exact ⟨_, serveOn_of_listens (mem_sinks_ends.mp hsink) hlistens handler, hprogress, hafter⟩

/-- A clone outlives the worker's own sink, which can then not be cloned again. One signal of 17
finds no room, and the second of the sixteen runs on the clone fails. -/
theorem steps_in_any_order_full_queue :
    let payload := Script.payload ['s'] [[.put ['b', '\n']], [.fail ['x']]]
    let steps := [.cloneSink 0, .dropSink 0] ++ List.replicate 17 .requestRun ++
      [.post 1 (.stdout ['a']), .receive, .closeSignals, .serveOn 1 (sessionHandler payload 0)]
    let history := History.run steps
    (Ends.afterSteps steps).sinks = {1} ∧ (Ends.afterSteps steps).receiver = true ∧
      history.sent = 16 ∧ history.received = [.stdout ['a']] ∧
      history.link.outbox.waiting = [.stdout ['b'], .done] ∧
      history.posted = [.stdout ['a'], .stdout ['b'], .done] ∧
      history.link.receive.1 = some (.message (.stdout ['b'])) ∧
      (history.link.post 1 .done).1 = some (.ok ()) ∧
      (history.link.step (.cloneSink 0)).2 = history.link := by
  intro payload steps history
  have hsinks : (Ends.afterSteps steps).sinks = {1} := by rfl
  have hreceiver : (Ends.afterSteps steps).receiver = true := by rfl
  have hread : history.received = [.stdout ['a']] := by rfl
  have hwaiting : history.link.outbox.waiting = [.stdout ['b'], .done] := by rfl
  obtain ⟨⟨-, hdone, -⟩, hreceive, ⟨hpost, -⟩, -⟩ := steps_in_any_order steps
  obtain ⟨hposted, hnext⟩ := hreceive hreceiver
  rw [hread, hwaiting] at hposted
  refine ⟨hsinks, hreceiver, by rfl, hread, hwaiting, hposted.symm, (hnext _).mpr ?_, ?_, ?_⟩
  · rw [← hposted, hread]
    rfl
  · rw [hpost 1 (hsinks ▸ Finset.mem_singleton_self 1) .done, hreceiver]
    rfl
  · exact (hdone (.cloneSink 0)).2 (by rfl)

end Link

end BenchRelay
