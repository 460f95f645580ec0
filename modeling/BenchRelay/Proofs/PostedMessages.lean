import BenchRelay.Proofs.Arrivals

/-!
# What a session posts

The messages that a session posts over a given sink, also those that are not delivered, in the order
of their posts. They say what becomes of the sink, and which of them are delivered is up to the sink
alone. As a session posts lines and then at most that a run is done, as many ends of runs are
delivered as runs are completed, whatever the sink.
-/

namespace BenchRelay

namespace Sink

variable {σ : Type} [Sink σ]

/-- Of messages that are posted up to the first that is not delivered, those that are posted. -/
def attempts : σ → List Message → List Message
  | _, [] => []
  | sink, message :: rest =>
    message :: if (post sink message).1 = .ok () then attempts (post sink message).2 rest else []

/-- Of messages that are posted one after another, whatever becomes of each, those that are
delivered. -/
def delivered : σ → List Message → List Message
  | _, [] => []
  | sink, message :: rest =>
    if (post sink message).1 = .ok () then message :: delivered (post sink message).2 rest
    else delivered (post sink message).2 rest

theorem postAll_cons_of_ok {sink : σ} {message : Message} (h : (post sink message).1 = .ok ())
    (rest : List Message) :
    postAll sink (message :: rest) = postAll (post sink message).2 rest := by
  rw [postAll, show post sink message = (.ok (), (post sink message).2) from Prod.ext h rfl]

theorem postAll_cons_of_error {sink : σ} {message : Message} {error : SinkError}
    (h : (post sink message).1 = .error error) (rest : List Message) :
    postAll sink (message :: rest) = (.error error, (post sink message).2) := by
  rw [postAll, show post sink message = (.error error, (post sink message).2) from Prod.ext h rfl]

/-- A sink is left as the posts leave it that are made. -/
theorem postAll_snd (sink : σ) (messages : List Message) :
    (postAll sink messages).2 = afterPosts sink (attempts sink messages) := by
  induction messages generalizing sink with
  | nil => rfl
  | cons message rest ih =>
    rw [attempts, afterPosts_cons]
    cases hpost : (post sink message).1 with
    | ok =>
      rw [postAll_cons_of_ok hpost, if_pos rfl]
      exact ih _
    | error error =>
      rw [postAll_cons_of_error hpost, if_neg (by simp)]
      rfl

/-- What is posted are messages from the front. -/
theorem attempts_subset (sink : σ) (messages : List Message) :
    attempts sink messages ⊆ messages := by
  induction messages generalizing sink with
  | nil => exact List.Subset.refl _
  | cons message rest ih =>
    rw [attempts]
    refine List.cons_subset_cons message ?_
    split
    · exact ih _
    · exact List.nil_subset _

theorem delivered_append (sink : σ) (first second : List Message) :
    delivered sink (first ++ second) =
      delivered sink first ++ delivered (afterPosts sink first) second := by
  induction first generalizing sink with
  | nil => rfl
  | cons message rest ih =>
    rw [List.cons_append, delivered, delivered, afterPosts_cons, ih]
    split <;> rfl

theorem delivered_subset (sink : σ) (messages : List Message) :
    delivered sink messages ⊆ messages := by
  induction messages generalizing sink with
  | nil => exact List.Subset.refl _
  | cons message rest ih =>
    rw [delivered]
    split
    · exact List.cons_subset_cons message (ih _)
    · exact List.subset_cons_of_subset message (ih _)

/-- A view to which every delivered message is added has them all. -/
theorem Keeps.holds_delivered {holds : σ → List Message → Prop} (h : Keeps holds (· = .ok ()))
    {sink : σ} {before : List Message} (hsink : holds sink before) (messages : List Message) :
    holds (afterPosts sink messages) (before ++ delivered sink messages) := by
  induction messages generalizing sink before with
  | nil => simpa [delivered] using hsink
  | cons message rest ih =>
    rw [afterPosts_cons, delivered]
    split
    · next hok => simpa using ih (h.arrived hsink hok)
    · next hfails => exact ih (h.lost hsink hfails)

end Sink

variable {μ σ : Type} [Sink σ]

/-- The lines that a piece of text completes behind what is pending, as messages. -/
def Relay.completed (relay : Relay σ) (text : Text) : List Message :=
  ((Lines.split '\n' text).after relay.pending).complete.map .stdout

theorem Relay.sink_write (relay : Relay σ) (text : Text) :
    (relay.write text).2.sink =
      Sink.afterPosts relay.sink (Sink.attempts relay.sink (relay.completed text)) := by
  rw [← Sink.postAll_snd, write, completed]
  split <;> next h => rw [h]

namespace Activity

/-- The messages that a benchmark posts in a run. -/
def posted : Activity μ → Relay σ → List Message
  | .finish _ _, _ => []
  | .log _ next, relay => next.posted relay
  | .put text next, relay =>
    Sink.attempts relay.sink (relay.completed text) ++
      (next (relay.write text).1).posted (relay.write text).2

theorem sink_run (activity : Activity μ) (relay : Relay σ) :
    (activity.run relay).outlet.sink = Sink.afterPosts relay.sink (activity.posted relay) := by
  induction activity generalizing relay with
  | finish outcome memory => rfl
  | log event next ih => exact ih relay
  | put text next ih =>
    rw [posted, Sink.afterPosts_append, ← relay.sink_write]
    exact ih _ _

/-- What a benchmark posts are lines. -/
theorem done_not_mem_posted (activity : Activity μ) (relay : Relay σ) :
    Message.done ∉ activity.posted relay := by
  induction activity generalizing relay with
  | finish outcome memory => exact List.not_mem_nil
  | log event next ih => exact ih relay
  | put text next ih =>
    rw [posted, List.mem_append, not_or]
    refine ⟨fun hmem => ?_, ih _ _⟩
    obtain ⟨line, -, hline⟩ := List.mem_map.mp (Sink.attempts_subset _ _ hmem)
    exact Message.noConfusion hline

end Activity

namespace Session

/-- The messages that the next run posts. -/
def posted (session : Session μ σ) : List Message :=
  (session.payload.main session.memory).posted session.relay ++
    if session.execution.outcome = .ok () then [.done] else []

/-- The messages that a number of runs post. -/
def postedIn (session : Session μ σ) (n : ℕ) : List Message :=
  (List.range n).flatMap fun k => (session.afterRuns k).posted

theorem postedIn_succ (session : Session μ σ) (n : ℕ) :
    session.postedIn (n + 1) = session.postedIn n ++ (session.afterRuns n).posted := by
  rw [postedIn, List.range_succ, List.flatMap_append, List.flatMap_singleton, postedIn]

/-- What fewer runs post is posted first. -/
theorem exists_postedIn_append (session : Session μ σ) {m n : ℕ} (h : m ≤ n) :
    ∃ more, session.postedIn n = session.postedIn m ++ more := by
  induction n, h using Nat.le_induction with
  | base => exact ⟨[], (List.append_nil _).symm⟩
  | succ n _ ih =>
    obtain ⟨more, hmore⟩ := ih
    exact ⟨more ++ (session.afterRuns n).posted, by
      rw [postedIn_succ, hmore, List.append_assoc]⟩

theorem sink_execution (session : Session μ σ) : session.execution.outlet.sink =
    Sink.afterPosts session.relay.sink
      ((session.payload.main session.memory).posted session.relay) :=
  Activity.sink_run _ _

theorem sink_run (session : Session μ σ) :
    session.run.after.relay.sink = Sink.afterPosts session.relay.sink session.posted := by
  rw [posted, Sink.afterPosts_append, ← sink_execution]
  cases hexecution : session.execution.outcome with
  | error error => rw [(session.course_run.of_error hexecution).2, if_neg (by simp)]; rfl
  | ok => rw [(session.course_run.of_ok hexecution).2, if_pos rfl]; rfl

theorem sink_afterRuns (session : Session μ σ) (n : ℕ) :
    (session.afterRuns n).relay.sink =
      Sink.afterPosts session.relay.sink (session.postedIn n) := by
  induction n with
  | zero => rfl
  | succ n ih => rw [afterRuns, sink_run, ih, postedIn_succ, Sink.afterPosts_append]

/-- The end of a run is delivered once if the run succeeds, and else not at all. -/
theorem count_done_delivered_posted (session : Session μ σ) :
    (Sink.delivered session.relay.sink session.posted).count .done =
      if session.run.outcome = .ok () then 1 else 0 := by
  have hlines : (Sink.delivered session.relay.sink
      ((session.payload.main session.memory).posted session.relay)).count .done = 0 :=
    List.count_eq_zero.mpr fun hmem =>
      Activity.done_not_mem_posted _ _ (Sink.delivered_subset _ _ hmem)
  rw [posted, Sink.delivered_append, ← sink_execution, List.count_append, hlines, Nat.zero_add]
  simp only [session.course_run.outcome_eq_ok_iff, reporting]
  by_cases hexecution : session.execution.outcome = .ok ()
  · rw [if_pos hexecution, Sink.delivered]
    split <;> simp [*, Sink.delivered]
  · simp [hexecution, Sink.delivered]

/-- As many ends of runs are delivered as runs are completed. -/
theorem count_done_delivered_postedIn (start : Session μ σ) (hstart : start.completedRuns = 0)
    (n : ℕ) : (Sink.delivered start.relay.sink (start.postedIn n)).count .done =
      (start.afterRuns n).completedRuns := by
  induction n with
  | zero => exact hstart.symm
  | succ n ih =>
    rw [postedIn_succ, Sink.delivered_append, List.count_append, ih, ← sink_afterRuns,
      count_done_delivered_posted, afterRuns, (course_run _).completedRuns]

end Session

end BenchRelay
