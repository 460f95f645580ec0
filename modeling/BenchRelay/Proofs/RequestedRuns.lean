import BenchRelay.Dispatch.Signals
import BenchRelay.Proofs.ServedFrames

/-!
# Runs on request

Whatever asks a runner for runs one after another and stops at the first that fails, the runs are
the same: those of the runner by itself. So it is known in closed form what serving the frames of a
stream comes to. The first run that fails ends the service whatever follows, a failure to read
included, and only a service of all frames looks at how the stream ends.
-/

namespace BenchRelay

variable {η : Type} [Runner η]

namespace Runner

/-- A runner after a number of runs, whatever came of them. -/
def afterRuns (runner : η) : ℕ → η
  | 0 => runner
  | n + 1 => (run (afterRuns runner n)).after

/-- What the run behind a number of earlier ones comes to. -/
def report (runner : η) (k : ℕ) : Report η := run (afterRuns runner k)

/-- Whether the first `n` runs succeed. -/
def Succeeds (runner : η) (n : ℕ) : Prop := ∀ k < n, (report runner k).outcome = .ok ()

/-- Whether run number `k`, counted from 0, is the first that fails, and with which failure. -/
structure FailsAt (runner : η) (k : ℕ) (error : RunError) : Prop where
  before : Succeeds runner k
  outcome : (report runner k).outcome = .error error

theorem afterRuns_after (runner : η) (n : ℕ) :
    afterRuns (run runner).after n = afterRuns runner (n + 1) := by
  induction n with
  | zero => rfl
  | succ n ih => exact congrArg (fun later => (run later).after) ih

theorem report_after (runner : η) (k : ℕ) :
    report (run runner).after k = report runner (k + 1) := by
  rw [report, afterRuns_after, report]

theorem succeeds_succ_iff {runner : η} {n : ℕ} :
    Succeeds runner (n + 1) ↔
      (run runner).outcome = .ok () ∧ Succeeds (run runner).after n := by
  simp only [Succeeds, report_after, Nat.forall_lt_succ_left]
  rfl

theorem failsAt_succ_iff {runner : η} {k : ℕ} {error : RunError} :
    FailsAt runner (k + 1) error ↔
      (run runner).outcome = .ok () ∧ FailsAt (run runner).after k error := by
  constructor
  · rintro ⟨hbefore, houtcome⟩
    obtain ⟨hfirst, hlater⟩ := succeeds_succ_iff.mp hbefore
    exact ⟨hfirst, hlater, by rwa [report_after]⟩
  · rintro ⟨hfirst, hbefore, houtcome⟩
    exact ⟨succeeds_succ_iff.mpr ⟨hfirst, hbefore⟩, by rwa [report_after] at houtcome⟩

/-- A number of runs all succeed or there is a first among them that fails. -/
theorem succeeds_or_failsAt (runner : η) (n : ℕ) :
    Succeeds runner n ∨ ∃ k < n, ∃ error, FailsAt runner k error := by
  induction n with
  | zero => exact .inl fun k hk => absurd hk (Nat.not_lt_zero k)
  | succ n ih =>
    obtain hall | ⟨k, hk, error, hfails⟩ := ih
    · cases houtcome : (report runner n).outcome with
      | error error => exact .inr ⟨n, by omega, error, hall, houtcome⟩
      | ok =>
        refine .inl fun k hk => ?_
        obtain hk | rfl := Nat.lt_succ_iff_lt_or_eq.mp hk
        · exact hall k hk
        · exact houtcome
    · exact .inr ⟨k, by omega, error, hfails⟩

end Runner

/-- A runner whose runs are counted. -/
structure Counted (η : Type) where
  runner : η
  calls : ℕ := 0

/-- Run once and count it. -/
def Counted.run (counted : Counted η) : Report (Counted η) :=
  let report := Runner.run counted.runner
  { outcome := report.outcome
    after := ⟨report.after, counted.calls + 1⟩
    log := report.log }

instance : Runner (Counted η) := ⟨Counted.run⟩

namespace Counted

/-- Counting the runs changes nothing about them. -/
theorem afterRuns_counted (counted : Counted η) (n : ℕ) :
    Runner.afterRuns counted n =
      ⟨Runner.afterRuns counted.runner n, counted.calls + n⟩ := by
  induction n with
  | zero => rfl
  | succ n ih =>
    rw [Runner.afterRuns, ih]
    rfl

theorem outcome_report (counted : Counted η) (k : ℕ) :
    (Runner.report counted k).outcome = (Runner.report counted.runner k).outcome := by
  rw [Runner.report, afterRuns_counted]
  rfl

theorem succeeds_iff (counted : Counted η) {n : ℕ} :
    Runner.Succeeds counted n ↔ Runner.Succeeds counted.runner n := by
  simp only [Runner.Succeeds, outcome_report]

theorem failsAt_iff (counted : Counted η) {k : ℕ} {error : RunError} :
    Runner.FailsAt counted k error ↔ Runner.FailsAt counted.runner k error := by
  constructor
  · rintro ⟨hbefore, houtcome⟩
    exact ⟨counted.succeeds_iff.mp hbefore, by rwa [outcome_report] at houtcome⟩
  · rintro ⟨hbefore, houtcome⟩
    exact ⟨counted.succeeds_iff.mpr hbefore, by rwa [outcome_report]⟩

end Counted

namespace Frames

/-- How long a frame is without one carriage return at its end. -/
def frameBytes (frame : Bytes) : ℕ := frame.length - if [0x0D] <:+ frame then 1 else 0

/-- What is logged while each of some frames has its run: that the frame was received, then what
the run logs. -/
def callLog (runner : η) : List Bytes → List Event
  | [] => []
  | frame :: frames =>
    .signalReceived (frameBytes frame) :: (Runner.run runner).log ++
      callLog (Runner.run runner).after frames

theorem length_withoutReturn (frame : Bytes) : (withoutReturn frame).length = frameBytes frame := by
  have hreturn : frame.getLast? = some 0x0D ↔ [0x0D] <:+ frame := by
    rw [List.getLast?_eq_some_iff]
    exact ⟨fun ⟨front, h⟩ => ⟨front, h.symm⟩, fun ⟨front, h⟩ => ⟨front, h.symm⟩⟩
  rw [withoutReturn, frameBytes]
  by_cases h : [0x0D] <:+ frame
  · rw [if_pos (hreturn.mpr h), if_pos h, List.length_dropLast]
  · rw [if_neg (mt hreturn.mp h), if_neg h, Nat.sub_zero]

/-- Where no run fails, every frame has its run. -/
theorem runEach_of_succeeds {runner : η} {frames : List Bytes}
    (h : Runner.Succeeds runner frames.length) (runs : ℕ) :
    runEach runner runs frames =
      ⟨.ok (runs + frames.length), Runner.afterRuns runner frames.length,
        callLog runner frames⟩ := by
  induction frames generalizing runner runs with
  | nil => rfl
  | cons frame frames ih =>
    obtain ⟨hfirst, hlater⟩ := Runner.succeeds_succ_iff.mp h
    rw [runEach_cons, Served.andThen_of_ok (runOne_of_ok hfirst frame runs)]
    simp only [runOne, Served.behind, ih hlater, Runner.afterRuns_after, length_withoutReturn,
      callLog, List.length_cons, Nat.add_assoc, Nat.add_comm 1]

/-- The first run that fails is the last. -/
theorem runEach_of_failsAt {runner : η} {frames : List Bytes} {k : ℕ} {error : RunError}
    (hk : k < frames.length) (h : Runner.FailsAt runner k error) (runs : ℕ) :
    runEach runner runs frames =
      ⟨.error (.run error), Runner.afterRuns runner (k + 1),
        callLog runner (frames.take (k + 1))⟩ := by
  induction frames generalizing runner runs k with
  | nil => simp at hk
  | cons frame frames ih =>
    cases k with
    | zero =>
      have houtcome : (Runner.run runner).outcome = .error error := h.outcome
      rw [runEach_cons, Served.andThen_of_error (runOne_of_error houtcome frame runs)]
      simp only [runOne, houtcome, length_withoutReturn, List.take_succ_cons, List.take_zero,
        callLog, List.append_nil]
      rfl
    | succ k =>
      obtain ⟨hfirst, hlater⟩ := Runner.failsAt_succ_iff.mp h
      rw [runEach_cons, Served.andThen_of_ok (runOne_of_ok hfirst frame runs)]
      simp only [runOne, Served.behind, ih (by simpa using hk) hlater, Runner.afterRuns_after,
        length_withoutReturn, List.take_succ_cons, callLog]

/-- The frames of a stream are the pieces that a terminator ends and, where the stream is closed, a
rest that is not empty. -/
theorem exists_pieces (stream : Bytes) (ending : InputEnd) :
    ∃ pieces rest, (∀ piece ∈ pieces, terminator ∉ piece) ∧ terminator ∉ rest ∧
      stream = pieces.flatMap (· ++ [terminator]) ++ rest ∧
      ofStream stream ending =
        pieces ++ if ending = .closed ∧ rest ≠ [] then [rest] else [] := by
  have hclean := Lines.clean_split terminator stream
  refine ⟨_, _, hclean.complete, hclean.rest, (Lines.unsplit_split terminator stream).symm, ?_⟩
  cases ending with
  | closed =>
    by_cases hrest : (Lines.split terminator stream).rest = []
    · simp [ofStream, ofLines, hrest]
    · simp [ofStream, ofLines, hrest]
  | failed reason => simp [ofStream, ofLines]

theorem mem_callLog {runner : η} {frames : List Bytes} {event : Event}
    (h : event ∈ callLog runner frames) :
    (∃ frame, event = .signalReceived (frameBytes frame)) ∨
      ∃ k, event ∈ (Runner.report runner k).log := by
  induction frames generalizing runner with
  | nil => simp [callLog] at h
  | cons frame frames ih =>
    rw [callLog, List.cons_append, List.mem_cons, List.mem_append] at h
    obtain rfl | hfirst | hlater := h
    · exact .inl ⟨frame, rfl⟩
    · exact .inr ⟨0, hfirst⟩
    · obtain hreceived | ⟨k, hk⟩ := ih hlater
      · exact .inl hreceived
      · exact .inr ⟨k + 1, by rwa [Runner.report_after] at hk⟩

section Serve

variable {runner : η} {chunks : List Bytes} {ending : InputEnd}

/-- Where no run fails, the end of the stream says what serving it came to. -/
theorem serve_of_succeeds {frames : List Bytes} (hframes : ofStream chunks.flatten ending = frames)
    (h : Runner.Succeeds runner frames.length) :
    serve runner chunks ending =
      (atEnd ending (Runner.afterRuns runner frames.length) frames.length).behind
        (.workerStarted :: callLog runner frames) := by
  rw [serve_eq, hframes, runEach_of_succeeds h 0, Served.andThen_of_ok rfl, Nat.zero_add]
  rfl

/-- The first run that fails says what serving a stream came to. -/
theorem serve_of_failsAt {frames : List Bytes} (hframes : ofStream chunks.flatten ending = frames)
    {k : ℕ} (hk : k < frames.length) {error : RunError} (h : Runner.FailsAt runner k error) :
    serve runner chunks ending =
      ⟨.error (.run error), Runner.afterRuns runner (k + 1),
        .workerStarted :: callLog runner (frames.take (k + 1))⟩ := by
  rw [serve_eq, hframes, runEach_of_failsAt hk h 0, Served.andThen_of_error rfl]
  rfl

/-- The end of a stream is not logged where serving the stream fails. -/
theorem streamClosed_not_mem_log
    (hquiet : ∀ k runs, .streamClosed runs ∉ (Runner.report runner k).log)
    {error : ServeError} (hresult : (serve runner chunks ending).result = .error error)
    (runs : ℕ) : .streamClosed runs ∉ (serve runner chunks ending).log := by
  have hcalls (frames : List Bytes) : .streamClosed runs ∉ callLog runner frames := by
    intro hmem
    obtain ⟨frame, hframe⟩ | ⟨k, hk⟩ := mem_callLog hmem
    · simp at hframe
    · exact hquiet k runs hk
  obtain hall | ⟨k, hk, error, hfails⟩ :=
    Runner.succeeds_or_failsAt runner (ofStream chunks.flatten ending).length
  · rw [serve_of_succeeds rfl hall] at hresult ⊢
    cases ending with
    | closed => simp [atEnd, Served.behind] at hresult
    | failed reason => simpa [atEnd, Served.behind] using hcalls _
  · rw [serve_of_failsAt rfl hk hfails]
    simpa using hcalls _

end Serve

/-- However a stream arrives, its frames have their runs in order, each logged as received before.
The first run that fails ends the service with its failure whatever follows. Where none does, a
failure to read the stream is met only once all frames had their runs, and a closed stream is logged
last with their number. -/
theorem serve_frame_by_frame (runner : η) (chunks : List Bytes) (ending : InputEnd) :
    let frames := ofStream chunks.flatten ending
    let served := serve runner chunks ending
    let calls := (serve ({ runner } : Counted η) chunks ending).after.calls
    (∃ pieces rest, (∀ piece ∈ pieces, terminator ∉ piece) ∧ terminator ∉ rest ∧
      chunks.flatten = pieces.flatMap (· ++ [terminator]) ++ rest ∧
      frames = pieces ++ if ending = .closed ∧ rest ≠ [] then [rest] else []) ∧
    (∀ others : List Bytes, others.flatten = chunks.flatten →
      serve runner others ending = served) ∧
    (∀ k < frames.length, ∀ error, Runner.FailsAt runner k error →
      calls = k + 1 ∧ served = ⟨.error (.run error), Runner.afterRuns runner (k + 1),
        .workerStarted :: callLog runner (frames.take (k + 1))⟩) ∧
    (Runner.Succeeds runner frames.length →
      calls = frames.length ∧ served.after = Runner.afterRuns runner frames.length ∧
      match ending with
      | .closed => served.result = .ok frames.length ∧ served.log =
          .workerStarted :: callLog runner frames ++ [.streamClosed frames.length]
      | .failed reason => served.result = .error (.input reason) ∧
          served.log = .workerStarted :: callLog runner frames) ∧
    ((∀ k runs, .streamClosed runs ∉ (Runner.report runner k).log) →
      ∀ error, served.result = .error error → ∀ runs, .streamClosed runs ∉ served.log) := by
  intro frames served calls
  refine ⟨exists_pieces _ ending, ?_, ?_, ?_, ?_⟩
  · intro others hothers
    rw [serve_eq, hothers, ← serve_eq]
  · intro k hk error hfails
    refine ⟨?_, serve_of_failsAt rfl hk hfails⟩
    have hcounted :=
      serve_of_failsAt rfl hk ((Counted.failsAt_iff { runner }).mpr hfails)
    rw [Counted.afterRuns_counted] at hcounted
    exact (congrArg (·.after.calls) hcounted).trans (Nat.zero_add _)
  · intro hall
    have hcounted := serve_of_succeeds rfl ((Counted.succeeds_iff { runner }).mpr hall)
    rw [Counted.afterRuns_counted] at hcounted
    rw [show served = _ from serve_of_succeeds rfl hall]
    cases ending with
    | closed =>
      exact ⟨(congrArg (·.after.calls) hcounted).trans (Nat.zero_add _), rfl, rfl, rfl⟩
    | failed reason =>
      exact ⟨(congrArg (·.after.calls) hcounted).trans (Nat.zero_add _), rfl, rfl,
        List.append_nil _⟩
  · intro hquiet error hresult
    exact streamClosed_not_mem_log hquiet hresult

/-- Frames that are empty or end in carriage returns, cut in the middle, with an unfinished one
behind them: the third run fails before the stream can, and where no run fails only a closed stream
has a fifth frame. -/
theorem serve_frame_by_frame_third_run_fails :
    let chunks : List Bytes := [[0x0A, 0x0D], [0x0A, 0x72, 0x0D, 0x0D], [0x0A, 0x0A, 0x0D]]
    let failing : Tally := { fails := fun k => k = 3 }
    let error : RunError := .other ("run " ++ Text.decimal 3 ++ " failed")
    let failed := serve failing chunks (.failed ['x'])
    let unread := serve ({} : Tally) chunks (.failed ['x'])
    let closed := serve ({} : Tally) chunks .closed
    Runner.FailsAt failing 2 error ∧ failed.result = .error (.run error) ∧
      failed.log = [.workerStarted, .signalReceived 0, .signalReceived 0, .signalReceived 2] ∧
      Runner.Succeeds ({} : Tally) 4 ∧ unread.result = .error (.input ['x']) ∧
      Runner.Succeeds ({} : Tally) 5 ∧ closed.result = .ok 5 ∧
      closed.log = [.workerStarted, .signalReceived 0, .signalReceived 0, .signalReceived 2,
        .signalReceived 0, .signalReceived 0, .streamClosed 5] := by
  intro chunks failing error failed unread closed
  have hfour : Runner.Succeeds ({} : Tally) 4 := by unfold Runner.Succeeds; decide
  have hfive : Runner.Succeeds ({} : Tally) 5 := by unfold Runner.Succeeds; decide
  have hfails : Runner.FailsAt failing 2 error :=
    ⟨by unfold Runner.Succeeds; decide, rfl⟩
  obtain ⟨-, -, hfailed, -⟩ := serve_frame_by_frame failing chunks (.failed ['x'])
  obtain ⟨-, hserved⟩ := hfailed 2 (by decide) _ hfails
  obtain ⟨-, -, -, hunread, -⟩ := serve_frame_by_frame ({} : Tally) chunks (.failed ['x'])
  obtain ⟨-, -, hinput, -⟩ := hunread hfour
  obtain ⟨-, -, -, hclosed, -⟩ := serve_frame_by_frame ({} : Tally) chunks .closed
  obtain ⟨-, -, hresult, hlog⟩ := hclosed hfive
  exact ⟨hfails, congrArg Served.result hserved, (congrArg Served.log hserved).trans (by decide),
    hfour, hinput, hfive, hresult, hlog.trans (by decide)⟩

end Frames

end BenchRelay
