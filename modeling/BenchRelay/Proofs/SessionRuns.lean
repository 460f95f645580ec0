import BenchRelay.Session
import BenchRelay.Proofs.Posting
import Mathlib.Data.Nat.Count

/-!
# Runs of a session

A run goes one of three ways: its benchmark fails, or the benchmark ends well and the end of the run
is reported, or it ends well and the report is not delivered. All that a run does to a session is
read off from these. A benchmark reaches the sink only through the relay, so whatever it does with
failed writes, what it posts are lines; the one message that is no line comes from the session,
last.
-/

namespace BenchRelay

namespace Sink

variable {σ : Type} [Sink σ]

/-- A sink after messages that were posted in order, whatever became of each. -/
def afterPosts (sink : σ) (messages : List Message) : σ :=
  messages.foldl (fun sink message => (post sink message).2) sink

@[simp] theorem afterPosts_nil (sink : σ) : afterPosts sink [] = sink := rfl

@[simp] theorem afterPosts_cons (sink : σ) (message : Message) (messages : List Message) :
    afterPosts sink (message :: messages) = afterPosts (post sink message).2 messages := rfl

theorem afterPosts_append (sink : σ) (first second : List Message) :
    afterPosts sink (first ++ second) = afterPosts (afterPosts sink first) second :=
  List.foldl_append

/-- Messages posted up to the first that is not delivered are posts of some of them. -/
theorem exists_take_of_postAll (sink : σ) (messages : List Message) :
    ∃ count, (postAll sink messages).2 = afterPosts sink (messages.take count) := by
  induction messages generalizing sink with
  | nil => exact ⟨0, rfl⟩
  | cons message messages ih =>
    simp only [postAll]
    cases hpost : post sink message with
    | mk outcome later =>
      cases outcome with
      | ok =>
        obtain ⟨count, hcount⟩ := ih later
        exact ⟨count + 1, by simpa [hpost] using hcount⟩
      | error error => exact ⟨1, by simp [hpost]⟩

/-- A sink that delivers nothing of what is posted to it from now on. -/
def Closed (sink : σ) : Prop :=
  ∀ messages message, (post (afterPosts sink messages) message).1 ≠ .ok ()

theorem Closed.afterPosts {sink : σ} (h : Closed sink) (messages : List Message) :
    Closed (Sink.afterPosts sink messages) := by
  intro more message
  rw [← afterPosts_append]
  exact h (messages ++ more) message

end Sink

theorem Message.count_done_map_stdout (lines : List Text) :
    (lines.map Message.stdout).count .done = 0 := by
  rw [List.count_eq_zero]
  simp

variable {μ σ : Type} [Sink σ]

/-- Whatever a benchmark does in a run, what it posts are lines. -/
theorem Activity.exists_lines (activity : Activity μ) (relay : Relay σ) :
    ∃ lines : List Text,
      (activity.run relay).outlet.sink = Sink.afterPosts relay.sink (lines.map .stdout) := by
  induction activity generalizing relay with
  | finish outcome memory => exact ⟨[], rfl⟩
  | log event next ih => exact ih relay
  | put text next ih =>
    obtain ⟨count, hcount⟩ := Sink.exists_take_of_postAll relay.sink
      (((Lines.split '\n' text).after relay.pending).complete.map .stdout)
    have hwrite : (relay.write text).2.sink = Sink.afterPosts relay.sink
        ((((Lines.split '\n' text).after relay.pending).complete.take count).map .stdout) := by
      rw [List.map_take, ← hcount, Relay.write]
      split <;> next h => rw [h]
    obtain ⟨lines, hlines⟩ := ih (relay.write text).1 (relay.write text).2
    refine ⟨((Lines.split '\n' text).after relay.pending).complete.take count ++ lines, ?_⟩
    rw [List.map_append, Sink.afterPosts_append, ← hwrite]
    exact hlines

namespace Session

section

variable {session : Session μ σ} {memory : μ} {relay : Relay σ} {log : List Event}

/-- A run that fails posts nothing more. -/
theorem run_of_error {error : RunError}
    (h : (session.payload.main session.memory).run session.relay =
      ⟨.error error, memory, relay, log⟩) :
    session.run = ⟨.error error, { session with memory, relay, state := .idle },
      .runStarted session.payload.name :: log⟩ := by
  simp only [run, h]

/-- A run that does not fail is reported as done. -/
theorem run_of_ok
    (h : (session.payload.main session.memory).run session.relay = ⟨.ok (), memory, relay, log⟩) :
    session.run = complete { session with memory, relay, state := .running }
      (.runStarted session.payload.name :: log ++ [.runFinished session.payload.name]) := by
  simp only [run, h]

theorem complete_of_posted {later : Relay σ} (h : session.relay.post .done = (.ok (), later))
    (log : List Event) : session.complete log =
      ⟨.ok (), { session with
        relay := later
        completedRuns := session.completedRuns + 1
        state := .idle }, log⟩ := by
  simp only [complete, h]

theorem complete_of_refused {error : SinkError} {later : Relay σ}
    (h : session.relay.post .done = (.error error, later)) (log : List Event) :
    session.complete log =
      ⟨.error (.sink error), { session with relay := later, state := .idle }, log⟩ := by
  simp only [complete, h]

end

/-- A session before its first run. -/
def fresh (payload : Payload μ) (memory : μ) (sink : σ) : Session μ σ :=
  { payload, memory, relay := { sink } }

/-- What a run posts whose benchmark completes some lines and ends with an outcome. -/
def messages (lines : List Text) (outcome : Except RunError Unit) : List Message :=
  lines.map .stdout ++ if outcome = .ok () then [.done] else []

theorem messages_of_ok {outcome : Except RunError Unit} (h : outcome = .ok ()) (lines : List Text) :
    messages lines outcome = lines.map .stdout ++ [.done] := by
  rw [messages, if_pos h]

theorem messages_of_ne_ok {outcome : Except RunError Unit} (h : outcome ≠ .ok ())
    (lines : List Text) : messages lines outcome = lines.map .stdout := by
  rw [messages, if_neg h, List.append_nil]

theorem count_done_messages (lines : List Text) (outcome : Except RunError Unit) :
    (messages lines outcome).count .done = if outcome = .ok () then 1 else 0 := by
  rw [messages, List.count_append, Message.count_done_map_stdout, Nat.zero_add]
  split <;> rfl

/-- What the benchmark comes to in the next run. -/
def execution (session : Session μ σ) : Execution μ (Relay σ) :=
  (session.payload.main session.memory).run session.relay

/-- What becomes of the report that the next run is done, if it comes to that. -/
def reporting (session : Session μ σ) : Except SinkError Unit :=
  (Sink.post session.execution.outlet.sink .done).1

/-- The session after a number of runs. -/
def afterRuns (session : Session μ σ) : ℕ → Session μ σ
  | 0 => session
  | n + 1 => (session.afterRuns n).run.after

/-- The three ways that a run goes. -/
inductive Course (session : Session μ σ) : Report (Session μ σ) → Prop
  /-- The benchmark fails. -/
  | failed {error : RunError} {memory : μ} {relay : Relay σ} {log : List Event}
      (execution : session.execution = ⟨.error error, memory, relay, log⟩) :
    Course session ⟨.error error, { session with memory, relay, state := .idle },
      .runStarted session.payload.name :: log⟩
  /-- The benchmark ends well and the run is reported as done. -/
  | reported {memory : μ} {relay : Relay σ} {log : List Event} {sink : σ}
      (execution : session.execution = ⟨.ok (), memory, relay, log⟩)
      (post : Sink.post relay.sink .done = (.ok (), sink)) :
    Course session ⟨.ok (), { session with
        memory
        relay := ⟨sink, relay.pending⟩
        state := .idle
        completedRuns := session.completedRuns + 1 },
      .runStarted session.payload.name :: log ++ [.runFinished session.payload.name]⟩
  /-- The benchmark ends well but nobody learns of it. -/
  | unreported {memory : μ} {relay : Relay σ} {log : List Event} {error : SinkError} {sink : σ}
      (execution : session.execution = ⟨.ok (), memory, relay, log⟩)
      (post : Sink.post relay.sink .done = (.error error, sink)) :
    Course session ⟨.error (.sink error),
      { session with memory, relay := ⟨sink, relay.pending⟩, state := .idle },
      .runStarted session.payload.name :: log ++ [.runFinished session.payload.name]⟩

/-- Every run goes one of the three ways. -/
theorem course_run (session : Session μ σ) : session.Course session.run := by
  rcases hexecution : session.execution with ⟨outcome, memory, relay, log⟩
  cases outcome with
  | error error =>
    rw [run_of_error hexecution]
    exact .failed hexecution
  | ok =>
    rw [run_of_ok hexecution]
    cases hpost : Sink.post relay.sink .done with
    | mk outcome sink =>
      cases outcome with
      | ok =>
        rw [complete_of_posted (Relay.post_eq hpost)]
        exact .reported hexecution hpost
      | error error =>
        rw [complete_of_refused (Relay.post_eq hpost)]
        exact .unreported hexecution hpost

namespace Course

variable {session : Session μ σ} {report : Report (Session μ σ)}

theorem payload (h : session.Course report) : report.after.payload = session.payload := by
  cases h <;> rfl

theorem state (h : session.Course report) : report.after.state = .idle := by
  cases h <;> rfl

/-- A run counts if it succeeds. -/
theorem completedRuns (h : session.Course report) : report.after.completedRuns =
    session.completedRuns + if report.outcome = .ok () then 1 else 0 := by
  cases h <;> simp

/-- A run ends as its benchmark does or, where that does not fail, as the report of it does. -/
theorem outcome (h : session.Course report) : report.outcome =
    match session.execution.outcome with
    | .ok () => session.reporting.mapError .sink
    | .error error => .error error := by
  cases h with
  | failed execution => simp [execution]
  | reported execution post => simp [reporting, execution, post, Except.mapError]
  | unreported execution post => simp [reporting, execution, post, Except.mapError]

/-- A run leaves pending what its benchmark does. -/
theorem pending (h : session.Course report) :
    report.after.relay.pending = session.execution.outlet.pending := by
  cases h with
  | failed execution => simp [execution]
  | reported execution _ => simp [execution]
  | unreported execution _ => simp [execution]

/-- A run that fails by its benchmark ends as the benchmark does and leaves the relay as the
benchmark does. -/
theorem of_error (h : session.Course report) {error : RunError}
    (hexecution : session.execution.outcome = .error error) :
    report.outcome = .error error ∧ report.after.relay = session.execution.outlet := by
  cases h with
  | failed execution => simpa [execution] using hexecution
  | reported execution _ => simp [execution] at hexecution
  | unreported execution _ => simp [execution] at hexecution

/-- A run that does not fail by its benchmark ends as its report does. -/
theorem of_ok (h : session.Course report) (hexecution : session.execution.outcome = .ok ()) :
    report.outcome = session.reporting.mapError .sink ∧
      report.after.relay =
        ⟨(Sink.post session.execution.outlet.sink .done).2, session.execution.outlet.pending⟩ := by
  cases h with
  | failed execution => simp [execution] at hexecution
  | reported execution post => simp [reporting, execution, post, Except.mapError]
  | unreported execution post => simp [reporting, execution, post, Except.mapError]

/-- A run succeeds if its benchmark does and its report is delivered. -/
theorem outcome_eq_ok_iff (h : session.Course report) :
    report.outcome = .ok () ↔ session.execution.outcome = .ok () ∧ session.reporting = .ok () := by
  cases h with
  | failed execution => simp [execution]
  | reported execution post => simp [reporting, execution, post]
  | unreported execution post => simp [reporting, execution, post]

/-- Behind what the benchmark logs, a run logs that it is finished if the benchmark does not
fail. -/
theorem log (h : session.Course report) :
    report.log = .runStarted session.payload.name :: session.execution.log ++
      if session.execution.outcome = .ok () then [.runFinished session.payload.name] else [] := by
  cases h with
  | failed execution => simp [execution]
  | reported execution _ => simp [execution]
  | unreported execution _ => simp [execution]

/-- What a run posts: lines, and that it is done if its benchmark does not fail. -/
theorem exists_lines (h : session.Course report) :
    ∃ lines : List Text,
      session.execution.outlet.sink = Sink.afterPosts session.relay.sink (lines.map .stdout) ∧
      report.after.relay.sink = Sink.afterPosts session.relay.sink (lines.map .stdout ++
        if session.execution.outcome = .ok () then [.done] else []) := by
  obtain ⟨lines, hlines⟩ := (session.payload.main session.memory).exists_lines session.relay
  change session.execution.outlet.sink = _ at hlines
  refine ⟨lines, hlines, ?_⟩
  rw [Sink.afterPosts_append, ← hlines]
  cases h with
  | failed execution => simp [execution]
  | reported execution post => simp [execution, post]
  | unreported execution post => simp [execution, post]

end Course

/-- No run changes which benchmark it runs. -/
@[simp] theorem payload_afterRuns (session : Session μ σ) (n : ℕ) :
    (session.afterRuns n).payload = session.payload := by
  induction n with
  | zero => rfl
  | succ n ih => exact (course_run _).payload.trans ih

/-- Between runs a session is idle. -/
theorem state_afterRuns {session : Session μ σ} (h : session.state = .idle) (n : ℕ) :
    (session.afterRuns n).state = .idle := by
  cases n with
  | zero => exact h
  | succ n => exact (course_run _).state

theorem completedRuns_afterRuns (session : Session μ σ) (n : ℕ) :
    (session.afterRuns n).completedRuns = session.completedRuns +
      Nat.count (fun k => (session.afterRuns k).run.outcome = .ok ()) n := by
  induction n with
  | zero => rfl
  | succ n ih =>
    rw [afterRuns, (course_run _).completedRuns, ih, Nat.count_succ, Nat.add_assoc]

end Session

end BenchRelay
