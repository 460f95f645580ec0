import BenchRelay.Payload.Script
import BenchRelay.Proofs.PostedMessages
import BenchRelay.Proofs.RequestedRuns

/-!
# Frames and signals ask for the same runs

Serving a closed stream and serving as many queued signals both come to asking the runner for so
many runs, one after another, up to the first that fails. The runner cannot tell which of the two
asks it, nor what the frames hold. A session that begins without any run has then completed all the
runs it was asked for, or all but the last, which failed.
-/

namespace BenchRelay

variable {η : Type} [Runner η]

namespace Runner

/-- What came of asking for runs: how often a run was asked for, the number of runs or the failure
of the last, and the runner. -/
structure Asked (η : Type) where
  calls : ℕ
  result : Except RunError ℕ
  after : η

/-- Ask for a number of runs one after another, up to the first that fails. -/
def ask (runner : η) : ℕ → Asked η
  | 0 => ⟨0, .ok 0, runner⟩
  | n + 1 =>
    let report := run runner
    match report.outcome with
    | .error error => ⟨1, .error error, report.after⟩
    | .ok () =>
      let asked := ask report.after n
      ⟨asked.calls + 1, asked.result.map (· + 1), asked.after⟩

theorem ask_succ_of_ok {runner : η} (h : (run runner).outcome = .ok ()) (n : ℕ) :
    ask runner (n + 1) =
      let asked := ask (run runner).after n
      ⟨asked.calls + 1, asked.result.map (· + 1), asked.after⟩ := by
  simp only [ask, h]

theorem ask_succ_of_error {runner : η} {error : RunError} (h : (run runner).outcome = .error error)
    (n : ℕ) : ask runner (n + 1) = ⟨1, .error error, (run runner).after⟩ := by
  simp only [ask, h]

/-- Where no run fails, all are asked for. -/
theorem ask_of_succeeds {runner : η} {n : ℕ} (h : Succeeds runner n) :
    ask runner n = ⟨n, .ok n, afterRuns runner n⟩ := by
  induction n generalizing runner with
  | zero => rfl
  | succ n ih =>
    obtain ⟨hfirst, hlater⟩ := succeeds_succ_iff.mp h
    rw [ask_succ_of_ok hfirst, ih hlater, ← afterRuns_after]
    rfl

/-- The first run that fails is the last that is asked for. -/
theorem ask_of_failsAt {runner : η} {n k : ℕ} (hk : k < n) {error : RunError}
    (h : FailsAt runner k error) :
    ask runner n = ⟨k + 1, .error error, afterRuns runner (k + 1)⟩ := by
  induction n generalizing runner k with
  | zero => exact absurd hk (Nat.not_lt_zero k)
  | succ n ih =>
    cases k with
    | zero => exact ask_succ_of_error h.outcome n
    | succ k =>
      obtain ⟨hfirst, hlater⟩ := failsAt_succ_iff.mp h
      rw [ask_succ_of_ok hfirst, ih (by omega) hlater, afterRuns_after]
      rfl

theorem ask_after (runner : η) (n : ℕ) :
    (ask runner n).after = afterRuns runner (ask runner n).calls := by
  obtain hall | ⟨k, hk, error, hfails⟩ := succeeds_or_failsAt runner n
  · rw [ask_of_succeeds hall]
  · rw [ask_of_failsAt hk hfails]

/-- Counting the runs changes nothing about them. -/
theorem ask_counted (runner : η) (n : ℕ) :
    ask ({ runner } : Counted η) n =
      let asked := ask runner n
      ⟨asked.calls, asked.result, ⟨asked.after, asked.calls⟩⟩ := by
  obtain hall | ⟨k, hk, error, hfails⟩ := succeeds_or_failsAt runner n
  · have hcounted : Succeeds ({ runner } : Counted η) n :=
      (Counted.succeeds_iff _).mpr hall
    rw [ask_of_succeeds hall, ask_of_succeeds hcounted, Counted.afterRuns_counted, Nat.zero_add]
  · have hcounted : FailsAt ({ runner } : Counted η) k error :=
      (Counted.failsAt_iff _).mpr hfails
    rw [ask_of_failsAt hk hfails, ask_of_failsAt hk hcounted, Counted.afterRuns_counted,
      Nat.zero_add]

end Runner

namespace Signals

/-- How far serving queued signals gets, given what came of asking for the runs. -/
def progressOf (closed : Bool) : Except RunError ℕ → Progress
  | .error error => .ended (.error error)
  | .ok runs => if closed then .ended (.ok runs) else .waiting

theorem serveFrom_eq_ask (runner : η) (runs : ℕ) (closed : Bool) (queued : ℕ) :
    (serveFrom runner runs closed queued).progress =
        progressOf closed ((Runner.ask runner queued).result.map (runs + ·)) ∧
      (serveFrom runner runs closed queued).after = (Runner.ask runner queued).after := by
  induction queued generalizing runner runs with
  | zero => cases closed <;> exact ⟨rfl, rfl⟩
  | succ queued ih =>
    cases houtcome : (Runner.run runner).outcome with
    | error error =>
      rw [Runner.ask_succ_of_error houtcome, serveFrom, houtcome]
      exact ⟨rfl, rfl⟩
    | ok =>
      obtain ⟨hprogress, hafter⟩ := ih (Runner.run runner).after (runs + 1)
      rw [Runner.ask_succ_of_ok houtcome]
      simp only [serveFrom, houtcome]
      refine ⟨hprogress.trans ?_, hafter⟩
      cases (Runner.ask (Runner.run runner).after queued).result with
      | error error => rfl
      | ok more => simp only [Except.map, Nat.add_assoc, Nat.add_comm 1]

/-- Serving queued signals is asking for as many runs. -/
theorem serve_eq_ask (runner : η) (queued : ℕ) (closed : Bool) :
    (serve runner queued closed).progress =
        progressOf closed (Runner.ask runner queued).result ∧
      (serve runner queued closed).after = (Runner.ask runner queued).after := by
  obtain ⟨hprogress, hafter⟩ := serveFrom_eq_ask runner 0 closed queued
  refine ⟨hprogress.trans ?_, hafter⟩
  cases (Runner.ask runner queued).result <;> simp [Except.map]

theorem progressOf_closed (result : Except RunError ℕ) :
    progressOf true result = .ended result := by
  cases result <;> rfl

end Signals

namespace Session

variable {μ σ : Type} [Sink σ]

theorem runnerAfterRuns_eq (session : Session μ σ) (n : ℕ) :
    Runner.afterRuns session n = session.afterRuns n := by
  induction n with
  | zero => rfl
  | succ n ih => exact congrArg (fun later => (Session.run later).after) ih

theorem outcome_report (session : Session μ σ) (k : ℕ) :
    (Runner.report session k).outcome = (session.afterRuns k).run.outcome := by
  rw [Runner.report, runnerAfterRuns_eq]
  rfl

/-- The completed runs up to where all succeed are all of them. -/
theorem completedRuns_of_succeeds (start : Session μ σ) (hstart : start.completedRuns = 0)
    {n : ℕ} (h : Runner.Succeeds start n) : (start.afterRuns n).completedRuns = n := by
  induction n with
  | zero => exact hstart
  | succ n ih =>
    have hlast := h n (Nat.lt_succ_self n)
    rw [outcome_report] at hlast
    rw [afterRuns, (course_run _).completedRuns, ih fun k hk => h k (by omega), if_pos hlast]

/-- A run that fails is not counted. -/
theorem completedRuns_of_failsAt (start : Session μ σ) (hstart : start.completedRuns = 0)
    {k : ℕ} {error : RunError} (h : Runner.FailsAt start k error) :
    (start.afterRuns (k + 1)).completedRuns = k := by
  have hlast := h.outcome
  rw [outcome_report] at hlast
  rw [afterRuns, (course_run _).completedRuns, start.completedRuns_of_succeeds hstart h.before,
    if_neg (by rw [hlast]; simp)]
  rfl

end Session

namespace Frames

/-- Serving a closed stream is asking for as many runs as it has frames. -/
theorem serve_eq_ask {chunks : List Bytes} {n : ℕ}
    (h : (ofStream chunks.flatten .closed).length = n) (runner : η) :
    (serve runner chunks .closed).result = (Runner.ask runner n).result.mapError .run ∧
      (serve runner chunks .closed).after = (Runner.ask runner n).after := by
  subst h
  obtain hall | ⟨k, hk, error, hfails⟩ :=
    Runner.succeeds_or_failsAt runner (ofStream chunks.flatten .closed).length
  · rw [serve_of_succeeds rfl hall, Runner.ask_of_succeeds hall]
    exact ⟨rfl, rfl⟩
  · rw [serve_of_failsAt rfl hk hfails, Runner.ask_of_failsAt hk hfails]
    exact ⟨rfl, rfl⟩

/-- Serving a closed stream of `n` frames and serving `n` signals that nobody can add to both come
to asking for `n` runs up to the first that fails: the result, the runner afterwards, and how often
it was asked. So no other stream of `n` frames makes a difference. A session that begins without any
run, over any sink, has completed as many runs as were asked for if none failed, and else all but
the last, as many as ends of runs were delivered; and it has posted nothing beyond those runs. -/
theorem serve_agrees_with_signals {chunks : List Bytes} {n : ℕ}
    (h : (ofStream chunks.flatten .closed).length = n) :
    (∀ (η : Type) [Runner η] (runner : η),
      let stream := serve runner chunks .closed
      let channel := Signals.serve runner n true
      let asked := Runner.ask runner n
      let counted : Counted η := { runner }
      (stream.result = asked.result.mapError .run ∧ channel.progress = .ended asked.result) ∧
      (stream.after = asked.after ∧ channel.after = asked.after) ∧
      ((serve counted chunks .closed).after = ⟨asked.after, asked.calls⟩ ∧
        (Signals.serve counted n true).after = ⟨asked.after, asked.calls⟩) ∧
      ∀ others : List Bytes, (ofStream others.flatten .closed).length = n →
        (serve runner others .closed).result = stream.result ∧
          (serve runner others .closed).after = stream.after) ∧
    ∀ (μ σ : Type) [Sink σ] (payload : Payload μ) (memory : μ) (sink : σ),
      let start := Session.fresh payload memory sink
      let stream := serve start chunks .closed
      let calls := (Runner.ask start n).calls
      let posted := start.postedIn calls
      stream.after.relay.sink = Sink.afterPosts sink posted ∧
      (Sink.delivered sink posted).count .done = stream.after.completedRuns ∧
      (∀ runs, stream.result = .ok runs →
        runs = n ∧ calls = n ∧ stream.after.completedRuns = n) ∧
      ∀ error, stream.result = .error error →
        calls = stream.after.completedRuns + 1 ∧ calls ≤ n := by
  refine ⟨fun η _ runner => ?_, fun μ σ _ payload memory sink => ?_⟩
  · intro stream channel asked counted
    obtain ⟨hresult, hafter⟩ := serve_eq_ask h runner
    obtain ⟨hprogress, hchannel⟩ := Signals.serve_eq_ask runner n true
    rw [Signals.progressOf_closed] at hprogress
    obtain ⟨-, hcounted⟩ := serve_eq_ask h counted
    obtain ⟨-, hsignals⟩ := Signals.serve_eq_ask counted n true
    rw [Runner.ask_counted] at hcounted hsignals
    refine ⟨⟨hresult, hprogress⟩, ⟨hafter, hchannel⟩, ⟨hcounted, hsignals⟩, ?_⟩
    intro others hothers
    obtain ⟨hother, hotherAfter⟩ := serve_eq_ask hothers runner
    exact ⟨hother.trans hresult.symm, hotherAfter.trans hafter.symm⟩
  · intro start stream calls posted
    obtain ⟨hresult, hafter⟩ := serve_eq_ask h start
    rw [show stream.result = _ from hresult, show stream.after = _ from hafter]
    obtain hall | ⟨k, hk, error, hfails⟩ := Runner.succeeds_or_failsAt start n
    · have hasked := Runner.ask_of_succeeds hall
      rw [start.runnerAfterRuns_eq] at hasked
      simp only [posted, calls, hasked]
      refine ⟨start.sink_afterRuns n, start.count_done_delivered_postedIn rfl n, ?_, ?_⟩
      · intro runs hruns
        exact ⟨(Except.ok.inj hruns).symm, trivial, start.completedRuns_of_succeeds rfl hall⟩
      · intro error herror
        simp [Except.mapError] at herror
    · have hasked := Runner.ask_of_failsAt hk hfails
      rw [start.runnerAfterRuns_eq] at hasked
      simp only [posted, calls, hasked]
      refine ⟨start.sink_afterRuns _, start.count_done_delivered_postedIn rfl _, ?_, ?_⟩
      · intro runs hruns
        simp [Except.mapError] at hruns
      · rw [start.completedRuns_of_failsAt rfl hfails]
        exact fun _ _ => ⟨rfl, hk⟩

/-- Three frames, of which the second and the last are unlike, and a session whose second run fails
behind the line that it wrote. -/
theorem serve_agrees_with_signals_second_run_fails :
    let chunks : List Bytes := [[0x0A, 0x0D], [0x0A, 0x31]]
    let payload := Script.payload ['s'] [[.put ['a', '\n']], [.put ['b', '\n'], .fail ['x']]]
    let start := Session.fresh payload 0 ({} : Recorder)
    let stream := serve start chunks .closed
    let channel := Signals.serve start 3 true
    (ofStream chunks.flatten .closed).length = 3 ∧
      stream.result = .error (.run (.other ['x'])) ∧
      channel.progress = .ended (.error (.other ['x'])) ∧
      stream.after.relay.sink.delivered = [.stdout ['a'], .done, .stdout ['b']] ∧
      channel.after.completedRuns = 1 := by
  intro chunks payload start stream channel
  have hframes : (ofStream chunks.flatten .closed).length = 3 := by decide
  obtain ⟨hrunner, -⟩ := serve_agrees_with_signals hframes
  obtain ⟨⟨hresult, hprogress⟩, ⟨hstream, hchannel⟩, -⟩ := hrunner _ start
  refine ⟨hframes, hresult.trans rfl, hprogress.trans rfl, ?_, ?_⟩
  · exact (congrArg (·.relay.sink.delivered) hstream).trans rfl
  · exact (congrArg (·.completedRuns) hchannel).trans rfl

end Frames

end BenchRelay
