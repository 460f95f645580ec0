import BenchRelay.Payload.Script
import BenchRelay.Proofs.Arrivals

/-!
# Accounts of a session

However posts fail, and whatever its benchmark does about that, a session keeps its accounts. Its
count of completed runs is the number of runs that succeeded, and where delivered messages are kept
it is the number of those that say that a run is done. Such a message comes last in its run. A run
whose benchmark fails posts none. One whose benchmark does not fail is logged as finished, so what
is logged beyond the completed runs are the runs whose report was not delivered. A writer may take a
line and still fail to flush it, and then it has that line more than the session counts.
-/

namespace BenchRelay

/-- What is of exactly one of two kinds is counted kind by kind. -/
theorem count_of_iff_or {p q r : ℕ → Prop} [DecidablePred p] [DecidablePred q] [DecidablePred r]
    (hor : ∀ k, p k ↔ q k ∨ r k) (hnot : ∀ k, q k → ¬ r k) (n : ℕ) :
    Nat.count p n = Nat.count q n + Nat.count r n := by
  induction n with
  | zero => rfl
  | succ n ih =>
    have hor := hor n
    have hnot := hnot n
    simp only [Nat.count_succ, ih]
    by_cases hq : q n
    · simp only [hor, hq, hnot hq, true_or, if_true, if_false]
      omega
    · by_cases hr : r n <;> simp only [hor, hq, hr, or_true, or_false, if_true, if_false] <;> omega

variable {μ σ : Type} [Sink σ]

namespace Session

/-- Whether the benchmark of the next run succeeds and nobody learns of it. -/
def Unreported (session : Session μ σ) : Prop :=
  session.execution.outcome = .ok () ∧ session.reporting ≠ .ok ()

instance (session : Session μ σ) : Decidable session.Unreported :=
  inferInstanceAs (Decidable (_ ∧ _))

/-- Whether no run from number `k` on succeeds or is counted. -/
def FailsFrom (start : Session μ σ) (k : ℕ) : Prop :=
  ∀ n ≥ k, (start.afterRuns n).run.outcome ≠ .ok () ∧
    (start.afterRuns n).completedRuns = (start.afterRuns k).completedRuns

/-- The events of the first `n` runs. -/
def logged (start : Session μ σ) (n : ℕ) : List Event :=
  (List.range n).flatMap fun k => (start.afterRuns k).run.log

/-- The events that the benchmark itself logs in the first `n` runs. -/
def loggedByBenchmark (start : Session μ σ) (n : ℕ) : List Event :=
  (List.range n).flatMap fun k => (start.afterRuns k).execution.log

/-- The accounts of a session over any sink. -/
structure Accounted (start : Session μ σ) : Prop where
  /-- Between runs the session is idle. -/
  idle : ∀ n, (start.afterRuns n).state = .idle
  /-- The completed runs are those that succeeded. -/
  completed : ∀ n, (start.afterRuns n).completedRuns =
    Nat.count (fun k => (start.afterRuns k).run.outcome = .ok ()) n
  /-- A run ends as its benchmark does or, where that does not fail, as the report of it does. -/
  outcome : ∀ k, (start.afterRuns k).run.outcome =
    match (start.afterRuns k).execution.outcome with
    | .ok () => (start.afterRuns k).reporting.mapError .sink
    | .error error => .error error
  /-- A run posts lines and then, if its benchmark does not fail, that it is done. -/
  posted : ∀ k, ∃ lines : List Text, (start.afterRuns (k + 1)).relay.sink =
    Sink.afterPosts (start.afterRuns k).relay.sink (lines.map .stdout ++
      if (start.afterRuns k).execution.outcome = .ok () then [.done] else [])
  /-- A run is logged as finished if its benchmark does not fail. -/
  finished : ∀ k, (start.afterRuns k).run.log =
    .runStarted start.payload.name :: (start.afterRuns k).execution.log ++
      if (start.afterRuns k).execution.outcome = .ok () then [.runFinished start.payload.name]
      else []
  /-- The runs logged as finished, apart from what the benchmark logs, are the completed ones and
  those whose report was not delivered. -/
  unreported : ∀ n, (start.logged n).count (.runFinished start.payload.name) =
    (start.loggedByBenchmark n).count (.runFinished start.payload.name) +
      (start.afterRuns n).completedRuns +
      Nat.count (fun k => (start.afterRuns k).Unreported) n
  /-- Once the sink delivers nothing more, no run succeeds. -/
  closed : ∀ k, Sink.Closed (start.afterRuns k).relay.sink → start.FailsFrom k

/-- What a session delivers to a sink that keeps the delivered messages. -/
structure DeliversRuns (delivered : σ → List Message) (start : Session μ σ) : Prop where
  /-- The completed runs are those whose end was delivered. -/
  done : ∀ n, (delivered (start.afterRuns n).relay.sink).count .done =
    (start.afterRuns n).completedRuns
  /-- A run delivers lines and then, if it succeeds, that it is done. -/
  run : ∀ k, ∃ lines : List Text, delivered (start.afterRuns (k + 1)).relay.sink =
    delivered (start.afterRuns k).relay.sink ++ (lines.map .stdout ++
      if (start.afterRuns k).run.outcome = .ok () then [.done] else [])

section Log

/-- A run succeeds or is unreported if its benchmark does not fail. -/
theorem execution_outcome_eq_ok_iff (session : Session μ σ) :
    session.execution.outcome = .ok () ↔ session.run.outcome = .ok () ∨ session.Unreported := by
  rw [session.course_run.outcome_eq_ok_iff, Unreported, ← and_or_left]
  exact (and_iff_left (em _)).symm

theorem not_unreported_of_ok {session : Session μ σ} (h : session.run.outcome = .ok ()) :
    ¬ session.Unreported :=
  fun hunreported => hunreported.2 (session.course_run.outcome_eq_ok_iff.mp h).2

theorem count_runFinished_logged (start : Session μ σ) (n : ℕ) :
    (start.logged n).count (.runFinished start.payload.name) =
      (start.loggedByBenchmark n).count (.runFinished start.payload.name) +
        Nat.count (fun k => (start.afterRuns k).execution.outcome = .ok ()) n := by
  induction n with
  | zero => rfl
  | succ n ih =>
    simp only [logged, loggedByBenchmark, List.range_succ, List.flatMap_append,
      List.flatMap_singleton, List.count_append, Nat.count_succ] at ih ⊢
    rw [ih, (start.afterRuns n).course_run.log, payload_afterRuns, List.count_append,
      List.count_cons_of_ne (by simp)]
    split
    · rw [List.count_singleton_self]
      omega
    · rw [List.count_nil]
      omega

end Log

section Closed

variable {session start : Session μ σ}

/-- Over a closed sink no run succeeds, and the sink stays closed. -/
theorem run_of_closed (h : Sink.Closed session.relay.sink) :
    session.run.outcome ≠ .ok () ∧ Sink.Closed session.run.after.relay.sink := by
  obtain ⟨lines, hlines, hposted⟩ := session.course_run.exists_lines
  constructor
  · intro hok
    have hreporting := (session.course_run.outcome_eq_ok_iff.mp hok).2
    rw [reporting, hlines] at hreporting
    exact h _ _ hreporting
  · rw [hposted]
    exact h.afterPosts _

theorem failsFrom_of_closed {k : ℕ} (h : Sink.Closed (start.afterRuns k).relay.sink) :
    start.FailsFrom k := by
  have hclosed (n : ℕ) (hn : k ≤ n) : Sink.Closed (start.afterRuns n).relay.sink := by
    induction n, hn using Nat.le_induction with
    | base => exact h
    | succ n _ ih => exact (run_of_closed ih).2
  intro n hn
  refine ⟨(run_of_closed (hclosed n hn)).1, ?_⟩
  induction n, hn using Nat.le_induction with
  | base => rfl
  | succ n hn ih =>
    rw [afterRuns, (course_run _).completedRuns, if_neg (run_of_closed (hclosed n hn)).1, ih,
      Nat.add_zero]

end Closed

theorem accounted_fresh (payload : Payload μ) (memory : μ) (sink : σ) :
    Accounted (fresh payload memory sink) where
  idle := state_afterRuns rfl
  completed n := by rw [completedRuns_afterRuns, fresh, Nat.zero_add]
  outcome k := (course_run _).outcome
  posted k := by
    obtain ⟨lines, -, hposted⟩ := ((fresh payload memory sink).afterRuns k).course_run.exists_lines
    exact ⟨lines, hposted⟩
  finished k := by rw [(course_run _).log, payload_afterRuns]
  unreported n := by
    rw [count_runFinished_logged, completedRuns_afterRuns, Nat.add_assoc,
      count_of_iff_or (fun _ => execution_outcome_eq_ok_iff _) fun _ => not_unreported_of_ok]
    simp only [fresh, Nat.zero_add]
  closed _ := failsFrom_of_closed

section Arrived

variable {holds : σ → List Message → Prop} {arrives : Except SinkError Unit → Prop}
  [DecidablePred arrives] {start : Session μ σ}

/-- What arrives in a run are lines, and that it is done if the report of that arrives. -/
theorem exists_arrived_of_run (h : Sink.Keeps holds arrives) {session : Session μ σ}
    {messages : List Message} (hsession : holds session.relay.sink messages) :
    ∃ lines : List Text, holds session.run.after.relay.sink (messages ++ (lines.map .stdout ++
      if session.execution.outcome = .ok () ∧ arrives session.reporting then [.done] else [])) := by
  obtain ⟨lines, hlines, hposted⟩ := session.course_run.exists_lines
  obtain ⟨kept, hkept⟩ := h.exists_lines hsession lines
  rw [← hlines] at hkept
  refine ⟨kept, ?_⟩
  rw [hposted, Sink.afterPosts_append, ← hlines, ← List.append_assoc]
  by_cases hexecution : session.execution.outcome = .ok ()
  · simp only [hexecution, true_and, if_true, Sink.afterPosts_cons, Sink.afterPosts_nil]
    split
    · next harrives => exact h.arrived hkept harrives
    · next hlost =>
      rw [List.append_nil]
      exact h.lost hkept hlost
  · simpa [hexecution] using hkept

/-- After a number of runs as many ends of runs have arrived as were reported and arrived. -/
theorem exists_arrived (h : Sink.Keeps holds arrives) (hstart : holds start.relay.sink []) (n : ℕ) :
    ∃ messages, holds (start.afterRuns n).relay.sink messages ∧
      messages.count .done = Nat.count (fun k => (start.afterRuns k).execution.outcome = .ok () ∧
        arrives (start.afterRuns k).reporting) n := by
  induction n with
  | zero => exact ⟨[], hstart, rfl⟩
  | succ n ih =>
    obtain ⟨messages, hmessages, hcount⟩ := ih
    obtain ⟨lines, hlines⟩ := exists_arrived_of_run h hmessages
    refine ⟨_, hlines, ?_⟩
    rw [List.count_append, List.count_append, hcount, Message.count_done_map_stdout, Nat.zero_add,
      Nat.count_succ]
    split <;> rfl

/-- A sink where what is delivered arrives and nothing else does. -/
theorem delivers_of_keeps {delivered : σ → List Message} (h : Sink.Keeps holds (· = .ok ()))
    (hdelivered : ∀ {sink messages}, holds sink messages → delivered sink = messages)
    (hstart : holds start.relay.sink []) (hcompleted : start.completedRuns = 0) :
    DeliversRuns delivered start where
  done n := by
    obtain ⟨messages, hmessages, hcount⟩ := exists_arrived h hstart n
    rw [hdelivered hmessages, hcount, completedRuns_afterRuns, hcompleted, Nat.zero_add]
    simp only [(course_run _).outcome_eq_ok_iff]
  run k := by
    obtain ⟨messages, hmessages, -⟩ := exists_arrived h hstart k
    obtain ⟨lines, hlines⟩ := exists_arrived_of_run h hmessages
    refine ⟨lines, ?_⟩
    rw [hdelivered hmessages, afterRuns, hdelivered hlines]
    simp only [(course_run _).outcome_eq_ok_iff]

end Arrived

theorem delivers_recorder (payload : Payload μ) (memory : μ) (refuses : ℕ → Bool) :
    DeliversRuns Recorder.delivered (fresh payload memory ({ refuses } : Recorder)) :=
  delivers_of_keeps (Recorder.keeps refuses) (fun h => h.2) ⟨rfl, rfl⟩ rfl

/-- Which posts a recorder refuses does not depend on the runs. -/
theorem refuses_afterRuns {start : Session μ Recorder} {refuses : ℕ → Bool}
    (hstart : start.relay.sink = { refuses }) (n : ℕ) :
    (start.afterRuns n).relay.sink.refuses = refuses := by
  have hfresh : start.relay.sink.refuses = refuses ∧ start.relay.sink.delivered = [] := by
    simp [hstart]
  obtain ⟨_, ⟨hsame, -⟩, -⟩ := exists_arrived (Recorder.keeps refuses) hfresh n
  exact hsame

/-- Over a recorder that refuses all posts from some number on, no run that starts then succeeds. -/
theorem failsFrom_recorder {start : Session μ Recorder} {refuses : ℕ → Bool}
    (hstart : start.relay.sink = { refuses }) {first k : ℕ} (hrefuses : ∀ m ≥ first, refuses m)
    (hposts : first ≤ (start.afterRuns k).relay.sink.posts + 1) : start.FailsFrom k := by
  refine failsFrom_of_closed (Recorder.closed_of_refuses fun m hm => ?_)
  rw [refuses_afterRuns hstart]
  exact hrefuses m (by omega)

theorem delivers_mailbox (payload : Payload μ) (memory : μ) (receivesFor : Option ℕ) :
    DeliversRuns Mailbox.delivered (fresh payload memory ({ receivesFor } : Mailbox)) :=
  delivers_of_keeps (Mailbox.keeps receivesFor) (fun h => h.2) ⟨rfl, rfl⟩ rfl

/-- Over a mailbox without a receiver no run succeeds. -/
theorem failsFrom_mailbox {start : Session μ Mailbox} {limit : ℕ}
    (hstart : start.relay.sink = { receivesFor := some limit }) {k : ℕ}
    (hposts : limit ≤ (start.afterRuns k).relay.sink.posts) : start.FailsFrom k := by
  have hfresh : start.relay.sink.receivesFor = some limit ∧ start.relay.sink.delivered = [] := by
    simp [hstart]
  obtain ⟨messages, ⟨hsame, -⟩, -⟩ := exists_arrived (Mailbox.keeps (some limit)) hfresh k
  refine failsFrom_of_closed (Mailbox.closed_of_not_isOpen ?_)
  simp only [Mailbox.isOpen, hsame, decide_eq_false_iff_not]
  omega

/-- A fresh writer has a line for each completed run, and one for each run whose report it took but
failed to flush. -/
theorem count_done_writer (payload : Payload μ) (memory : μ) {writer : Writer}
    (hwriter : writer.written = []) (n : ℕ) :
    let session := (fresh payload memory writer).afterRuns
    (Lines.split Message.newline (session n).relay.sink.written).complete.count Message.done.body =
      (session n).completedRuns + Nat.count (fun k => (session k).execution.outcome = .ok () ∧
        (session k).reporting = .error (.io "flush failed")) n := by
  intro session
  have hstart : (fresh payload memory writer).relay.sink.HasLines [] :=
    ⟨[], hwriter, List.not_mem_nil, .inl rfl⟩
  obtain ⟨messages, hmessages, hcount⟩ := exists_arrived Writer.keeps hstart n
  rw [Writer.complete_of_hasLines hmessages,
    List.count_map_of_injective _ _ Message.body_injective, hcount, completedRuns_afterRuns]
  simp only [(course_run _).outcome_eq_ok_iff, fresh, Nat.zero_add]
  refine count_of_iff_or (fun k => and_or_left) (fun k hreported hunflushed => ?_) n
  rw [hreported.2] at hunflushed
  simp at hunflushed

/-- However posts fail and whatever a benchmark does about that, the accounts of a session that
begins without any run are right over every sink. A recorder and a mailbox have as many ends of runs
as the session counts, each behind what its run delivered before; from where all posts are refused
or the receiver is gone, no run succeeds. A writer has besides the ends that it failed to flush. -/
theorem accounts_of_runs (payload : Payload μ) (memory : μ) :
    (∀ (σ : Type) [Sink σ] (sink : σ), Accounted (fresh payload memory sink)) ∧
    (∀ refuses : ℕ → Bool,
      let start := fresh payload memory ({ refuses } : Recorder)
      DeliversRuns Recorder.delivered start ∧
        ∀ first k, (∀ m ≥ first, refuses m) →
          first ≤ (start.afterRuns k).relay.sink.posts + 1 → start.FailsFrom k) ∧
    (∀ receivesFor : Option ℕ,
      let start := fresh payload memory ({ receivesFor } : Mailbox)
      DeliversRuns Mailbox.delivered start ∧
        ∀ limit k, receivesFor = some limit →
          limit ≤ (start.afterRuns k).relay.sink.posts → start.FailsFrom k) ∧
    ∀ capacity whenFull failsFlush n,
      let session :=
        (fresh payload memory ({ capacity, whenFull, failsFlush } : Writer)).afterRuns
      (Lines.split Message.newline (session n).relay.sink.written).complete.count
          Message.done.body =
        (session n).completedRuns + Nat.count (fun k => (session k).execution.outcome = .ok () ∧
          (session k).reporting = .error (.io "flush failed")) n := by
  refine ⟨fun σ _ sink => accounted_fresh payload memory sink, fun refuses => ?_,
    fun receivesFor => ?_,
    fun capacity whenFull failsFlush n => count_done_writer payload memory rfl n⟩
  · exact ⟨delivers_recorder payload memory refuses,
      fun first k hrefuses hposts => failsFrom_recorder rfl hrefuses hposts⟩
  · refine ⟨delivers_mailbox payload memory receivesFor, ?_⟩
    rintro limit k rfl hposts
    exact failsFrom_mailbox rfl hposts

/-- A benchmark that ignores failed writes, over a recorder that refuses its second report and all
later posts, and over a mailbox whose receiver goes away within the second run. -/
theorem accounts_of_runs_second_report_fails :
    let payload := Script.payload ['s'] [[.tryPut ['a', '\n']]]
    let recording := fresh payload 0 ({ refuses := fun m => 4 ≤ m } : Recorder)
    let sending := fresh payload 0 ({ receivesFor := some 3 } : Mailbox)
    (recording.afterRuns 1).Unreported ∧ DeliversRuns Recorder.delivered recording ∧
      (recording.afterRuns 2).completedRuns = 1 ∧ recording.FailsFrom 2 ∧
      (sending.afterRuns 1).Unreported ∧ DeliversRuns Mailbox.delivered sending ∧
      (sending.afterRuns 2).completedRuns = 1 ∧ sending.FailsFrom 2 := by
  intro payload recording sending
  obtain ⟨-, hrecording, hsending, -⟩ := accounts_of_runs payload 0
  obtain ⟨hrecorded, hrefused⟩ := hrecording fun m => 4 ≤ m
  obtain ⟨hsent, hgone⟩ := hsending (some 3)
  exact ⟨by decide, hrecorded, by decide, hrefused 4 2 (by simp) (by decide), by decide, hsent,
    by decide, hgone 3 2 rfl (by decide)⟩

end Session

end BenchRelay
