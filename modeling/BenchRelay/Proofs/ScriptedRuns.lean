import BenchRelay.Payload.Script
import BenchRelay.Proofs.SessionRuns

/-!
# What scripted runs leave behind

Over a recorder that refuses nothing, a session of a scripted benchmark is one text cut at its
newlines, whatever the runs were that wrote it: a run that ends without a newline leaves its last
line to the next, also when it fails. Between the lines stand the ends of the runs that did not
fail, each behind the lines that were complete by then.
-/

namespace BenchRelay

namespace Script

/-- The text that a run writes if all of it is taken: that of its steps before one that fails. -/
def written : List Step → Text
  | [] => []
  | .put text :: rest | .tryPut text :: rest => text ++ written rest
  | .fail _ :: _ => []

/-- How a run ends if all that it writes is taken. -/
def outcome : List Step → Except RunError Unit
  | [] => .ok ()
  | .put _ :: rest | .tryPut _ :: rest => outcome rest
  | .fail reason :: _ => .error (.other reason)

/-- Where nothing fails a scripted run writes its text. -/
theorem run_activity_of_neverFails {μ σ : Type} [Sink σ] {relay : Relay σ}
    (h : Sink.NeverFails relay.sink) (memory : μ) (steps : List Step) :
    (activity memory steps).run relay =
      ⟨outcome steps, memory, (relay.write (written steps)).2, []⟩ := by
  induction steps generalizing relay with
  | nil => simp [activity, Activity.run, outcome, written]
  | cons step rest ih =>
    cases step with
    | put text | tryPut text =>
      obtain ⟨later, hwrite, hlater⟩ := Relay.write_of_neverFails h text
      have hput : Outlet.put relay text = (.ok (), later) := hwrite
      simp only [activity, Activity.run, hput, outcome, written, Relay.write_append, hwrite]
      exact ih hlater
    | fail reason => simp [activity, Activity.run, outcome, written]

/-- The text that the first `n` runs write. -/
def writtenBy (runs : List (List Step)) (n : ℕ) : Text :=
  (List.range n).flatMap fun k => written (stepsOf runs k)

theorem writtenBy_succ (runs : List (List Step)) (n : ℕ) :
    writtenBy runs (n + 1) = writtenBy runs n ++ written (stepsOf runs n) := by
  simp [writtenBy, List.range_succ, List.flatMap_append]

/-- A session of a scripted benchmark over a recorder, before its first run. -/
def session (name : Text) (runs : List (List Step)) : Session ℕ Recorder :=
  { payload := payload name runs, memory := 0, relay := { sink := {} } }

/-- A session of a scripted benchmark that has recorded all lines of its first `n` runs. -/
structure Framed (name : Text) (runs : List (List Step)) (n : ℕ) (session : Session ℕ Recorder) :
    Prop where
  payload : session.payload = payload name runs
  memory : session.memory = n
  refuses : ∀ m, session.relay.sink.refuses m = false
  /-- The recorded lines are those of the text so far. -/
  lines : session.relay.sink.delivered.filter (!·.isDone) =
    (Lines.split '\n' (writtenBy runs n)).complete.map .stdout
  /-- What is pending is the text behind the last newline. -/
  pending : session.relay.pending = (Lines.split '\n' (writtenBy runs n)).rest

variable {name : Text} {runs : List (List Step)} {n : ℕ}

theorem framed_session : Framed name runs 0 (session name runs) :=
  ⟨rfl, rfl, fun _ => rfl, rfl, rfl⟩

theorem filter_not_isDone_map_stdout (lines : List Text) :
    (lines.map Message.stdout).filter (!·.isDone) = lines.map .stdout := by
  rw [List.filter_eq_self]
  intro message hmessage
  obtain ⟨line, -, rfl⟩ := List.mem_map.mp hmessage
  rfl

/-- What the benchmark of one more run records. -/
theorem execution_of_framed {session : Session ℕ Recorder} (h : Framed name runs n session)
    {lines : Lines Char}
    (hlines : (Lines.split '\n' (written (stepsOf runs n))).after session.relay.pending = lines) :
    session.execution = ⟨outcome (stepsOf runs n), n + 1,
      ⟨session.relay.sink.accept (lines.complete.map .stdout), lines.rest⟩, []⟩ := by
  have hwrite : session.relay.write (written (stepsOf runs n)) = (.ok (),
      ⟨session.relay.sink.accept (lines.complete.map .stdout), lines.rest⟩) :=
    Relay.write_of_acceptsNext hlines fun _ _ => h.refuses _
  have hrun := run_activity_of_neverFails (Recorder.neverFails_of_refuses_none h.refuses) (n + 1)
    (stepsOf runs n)
  rw [hwrite] at hrun
  rw [Session.execution, h.payload, h.memory]
  exact hrun

/-- What one more run records. -/
theorem run_of_execution {session : Session ℕ Recorder}
    (h : ∀ m, session.relay.sink.refuses m = false)
    {outcome : Except RunError Unit} {memory : ℕ} {lines : Lines Char} {log : List Event}
    (hexecution : session.execution = ⟨outcome, memory,
      ⟨session.relay.sink.accept (lines.complete.map .stdout), lines.rest⟩, log⟩) :
    session.run.outcome = outcome ∧ session.run.after.memory = memory ∧
      session.run.after.relay =
        ⟨session.relay.sink.accept (Session.messages lines.complete outcome), lines.rest⟩ := by
  have hdone : Sink.post (session.relay.sink.accept (lines.complete.map .stdout)) .done =
      (.ok (), session.relay.sink.accept (lines.complete.map .stdout ++ [.done])) := by
    rw [Recorder.post_of_accepts (session.relay.sink.accept _) _ (h _)]
    simp [Recorder.accept, Nat.add_assoc]
  have hcourse := session.course_run
  generalize session.run = report at hcourse
  cases hcourse with
  | failed execution =>
    rw [hexecution, Execution.mk.injEq] at execution
    obtain ⟨rfl, rfl, rfl, rfl⟩ := execution
    simp [Session.messages]
  | reported execution post =>
    rw [hexecution, Execution.mk.injEq] at execution
    obtain ⟨rfl, rfl, rfl, rfl⟩ := execution
    obtain ⟨-, rfl⟩ := Prod.mk.inj (hdone.symm.trans post)
    simp [Session.messages]
  | unreported execution post =>
    rw [hexecution, Execution.mk.injEq] at execution
    obtain ⟨-, -, rfl, -⟩ := execution
    exact absurd (hdone.symm.trans post) (by simp)

theorem filter_not_isDone_messages (lines : List Text) (outcome : Except RunError Unit) :
    (Session.messages lines outcome).filter (!·.isDone) = lines.map .stdout := by
  rw [Session.messages, List.filter_append, filter_not_isDone_map_stdout]
  split <;> simp [Message.isDone]

/-- One more run records the lines that it completes, and that it is done unless it fails. -/
theorem run_of_framed {session : Session ℕ Recorder} (h : Framed name runs n session) :
    ∃ lines : List Text,
      (Lines.split '\n' (writtenBy runs (n + 1))).complete =
        (Lines.split '\n' (writtenBy runs n)).complete ++ lines ∧
      session.run.outcome = outcome (stepsOf runs n) ∧
      session.run.after.relay.sink.delivered = session.relay.sink.delivered ++
        Session.messages lines session.run.outcome ∧
      Framed name runs (n + 1) session.run.after := by
  obtain ⟨lines, hlines⟩ : ∃ lines,
    (Lines.split '\n' (written (stepsOf runs n))).after session.relay.pending = lines := ⟨_, rfl⟩
  obtain ⟨houtcome, hmemory, hrelay⟩ := run_of_execution h.refuses (execution_of_framed h hlines)
  have hsplit : Lines.split '\n' (writtenBy runs (n + 1)) =
      ⟨(Lines.split '\n' (writtenBy runs n)).complete ++ lines.complete, lines.rest⟩ := by
    rw [writtenBy_succ, Lines.split_append]
    simp only [← h.pending, hlines]
  refine ⟨lines.complete, by rw [hsplit], houtcome, ?_, ?_⟩
  · rw [hrelay, houtcome, Recorder.accept]
  · refine ⟨session.course_run.payload.trans h.payload, hmemory, ?_, ?_, ?_⟩
    · rw [hrelay]
      exact h.refuses
    · rw [hrelay, hsplit, List.map_append, ← h.lines,
        ← filter_not_isDone_messages lines.complete (outcome (stepsOf runs n)),
        ← List.filter_append, Recorder.accept]
    · rw [hrelay, hsplit]

theorem framed_afterRuns (name : Text) (runs : List (List Step)) (n : ℕ) :
    Framed name runs n ((session name runs).afterRuns n) := by
  induction n with
  | zero => exact framed_session
  | succ n ih =>
    obtain ⟨-, -, -, -, hframed⟩ := run_of_framed ih
    exact hframed

/-- There is one message that a run is done for each run that succeeds. -/
theorem count_done_afterRuns (name : Text) (runs : List (List Step)) (n : ℕ) :
    ((session name runs).afterRuns n).relay.sink.delivered.count .done =
      Nat.count (fun k => ((session name runs).afterRuns k).run.outcome = .ok ()) n := by
  induction n with
  | zero => rfl
  | succ n ih =>
    obtain ⟨lines, -, -, hdelivered, -⟩ := run_of_framed (framed_afterRuns name runs n)
    rw [Session.afterRuns, hdelivered, List.count_append, ih, Session.count_done_messages,
      Nat.count_succ]

/-- What is recorded stays recorded. -/
theorem delivered_isPrefix_afterRuns (name : Text) (runs : List (List Step)) {k n : ℕ}
    (h : k ≤ n) : ((session name runs).afterRuns k).relay.sink.delivered <+:
      ((session name runs).afterRuns n).relay.sink.delivered := by
  induction n, h using Nat.le_induction with
  | base => exact List.prefix_rfl
  | succ n _ ih =>
    obtain ⟨lines, -, -, hdelivered, -⟩ := run_of_framed (framed_afterRuns name runs n)
    rw [Session.afterRuns, hdelivered]
    exact ih.trans (List.prefix_append _ _)

/-- After any number of scripted runs, failed ones included, the recorded lines and the pending text
are the whole text so far cut at its newlines, and there is one message that a run is done for each
run that succeeded. That message stands behind the lines that were complete when the run ended and
before all others, and a run that fails adds the lines that it completes and nothing else. -/
theorem afterRuns_framed (name : Text) (runs : List (List Step)) (n : ℕ) :
    let session := (session name runs).afterRuns
    let delivered (k : ℕ) := (session k).relay.sink.delivered
    let succeeds (k : ℕ) := (session k).run.outcome = .ok ()
    let lines (k : ℕ) := Lines.split '\n' (writtenBy runs k)
    (delivered n).filter (!·.isDone) = (lines n).complete.map .stdout ∧
    (session n).relay.pending = (lines n).rest ∧
    (delivered n).count .done = Nat.count succeeds n ∧
    (∀ k < n, succeeds k → ∃ before later, delivered n = before ++ .done :: later ∧
      before.filter (!·.isDone) = (lines (k + 1)).complete.map .stdout ∧
      before.count .done = Nat.count succeeds k ∧
      before.countP (!·.isDone) = (writtenBy runs (k + 1)).count '\n') ∧
    ∀ k, (session k).run.outcome = outcome (stepsOf runs k) ∧
      (¬ succeeds k → ∃ completed : List Text,
        (lines (k + 1)).complete = (lines k).complete ++ completed ∧
        delivered (k + 1) = delivered k ++ completed.map .stdout) := by
  intro session delivered succeeds lines
  have hframed (k : ℕ) : Framed name runs k (session k) := framed_afterRuns name runs k
  refine ⟨(hframed n).lines, (hframed n).pending, count_done_afterRuns name runs n, ?_, ?_⟩
  · intro k hk hsucceeds
    obtain ⟨completed, hcompleted, -, hdelivered, -⟩ := run_of_framed (hframed k)
    rw [Session.messages_of_ok hsucceeds, ← List.append_assoc] at hdelivered
    obtain ⟨later, hlater⟩ := delivered_isPrefix_afterRuns name runs (Nat.succ_le_of_lt hk)
    have hbefore : (delivered k ++ completed.map Message.stdout).filter (!·.isDone) =
        (lines (k + 1)).complete.map .stdout := by
      rw [List.filter_append, (hframed k).lines, filter_not_isDone_map_stdout, hcompleted,
        List.map_append]
    refine ⟨delivered k ++ completed.map .stdout, later, ?_, hbefore, ?_, ?_⟩
    · rw [← List.singleton_append, ← List.append_assoc, ← hdelivered]
      exact hlater.symm
    · rw [List.count_append, Message.count_done_map_stdout, count_done_afterRuns name runs k,
        Nat.add_zero]
    · rw [List.countP_eq_length_filter, hbefore, List.length_map, Lines.length_complete_split]
  · intro k
    obtain ⟨completed, hcompleted, houtcome, hdelivered, -⟩ := run_of_framed (hframed k)
    refine ⟨houtcome, fun hfails => ⟨completed, hcompleted, ?_⟩⟩
    rw [Session.messages_of_ne_ok hfails] at hdelivered
    exact hdelivered

/-- The first run leaves its text to the second, which fails and leaves some to the third. -/
theorem afterRuns_framed_second_run_fails :
    let runs : List (List Step) :=
      [[.put ['a']], [.put ['b', '\n', 'c'], .fail ['x'], .put ['e']], [.tryPut ['\n', 'd', '\n']]]
    ((session ['s'] runs).afterRuns 0).run.outcome = .ok () ∧
      ((session ['s'] runs).afterRuns 1).run.outcome ≠ .ok () ∧
      ((session ['s'] runs).afterRuns 3).relay.sink.delivered.filter (!·.isDone) =
        [.stdout ['a', 'b'], .stdout ['c'], .stdout ['d']] ∧
      (∃ before later,
        ((session ['s'] runs).afterRuns 3).relay.sink.delivered = before ++ .done :: later ∧
          before.filter (!·.isDone) = []) ∧
      ((session ['s'] runs).afterRuns 2).relay.sink.delivered =
        ((session ['s'] runs).afterRuns 1).relay.sink.delivered ++ [.stdout ['a', 'b']] := by
  intro runs
  have hfirst : ((session ['s'] runs).afterRuns 0).run.outcome = .ok () := rfl
  have hsecond : ((session ['s'] runs).afterRuns 1).run.outcome ≠ .ok () := by decide
  have hframed := afterRuns_framed ['s'] runs 3
  dsimp only at hframed
  obtain ⟨hlines, -, -, hdone, hruns⟩ := hframed
  obtain ⟨before, later, hdelivered, hbefore, -, -⟩ := hdone 0 (by decide) hfirst
  obtain ⟨completed, hcompleted, hadded⟩ := (hruns 1).2 hsecond
  have hcut : (Lines.split '\n' (writtenBy runs 3)).complete.map Message.stdout =
      [.stdout ['a', 'b'], .stdout ['c'], .stdout ['d']] := rfl
  have hab : [['a', 'b']] = completed := hcompleted
  rw [hcut] at hlines
  rw [← hab] at hadded
  exact ⟨hfirst, hsecond, hlines, ⟨before, later, hdelivered, hbefore⟩, hadded⟩

end Script

end BenchRelay
