import BenchRelay.Dispatch.Frames
import BenchRelay.Proofs.LineCutting

/-!
# The runs that a stream asks for

A stream that arrives in chunks asks for the runs of its frames as a whole, whatever the chunks. The
frames are the lines of the stream, and where it is closed a non-empty rest is one too. How the
stream ends is looked at only once every frame has had its run.
-/

namespace BenchRelay

namespace Served

variable {η : Type}

/-- Put what was logged before in front. -/
def behind (served : Served η) (log : List Event) : Served η :=
  { served with log := log ++ served.log }

/-- Go on with the service where nothing failed so far. -/
def andThen (served : Served η) (next : η → ℕ → Served η) : Served η :=
  match served.result with
  | .error _ => served
  | .ok runs => (next served.after runs).behind served.log

theorem andThen_of_error {served : Served η} {error : ServeError} (h : served.result = .error error)
    (next : η → ℕ → Served η) : served.andThen next = served := by
  simp only [andThen, h]

theorem andThen_of_ok {served : Served η} {runs : ℕ} (h : served.result = .ok runs)
    (next : η → ℕ → Served η) :
    served.andThen next = (next served.after runs).behind served.log := by
  simp only [andThen, h]

theorem behind_andThen (served : Served η) (log : List Event) (next : η → ℕ → Served η) :
    (served.behind log).andThen next = (served.andThen next).behind log := by
  simp only [andThen, behind]
  split
  · rfl
  · simp only [List.append_assoc]

theorem andThen_assoc (served : Served η) (next last : η → ℕ → Served η) :
    (served.andThen next).andThen last =
      served.andThen fun runner runs => (next runner runs).andThen last := by
  obtain ⟨error | runs, after, log⟩ := served
  · rfl
  · exact behind_andThen (next after runs) log last

end Served

namespace Frames

variable {η : Type} [Runner η]

/-- The frames among the lines of a stream. -/
def ofLines (lines : Lines UInt8) : InputEnd → List Bytes
  | .closed => lines.complete ++ if lines.rest.isEmpty then [] else [lines.rest]
  | .failed _ => lines.complete

/-- The frames of a stream. -/
def ofStream (b : Bytes) : InputEnd → List Bytes := ofLines (Lines.split terminator b)

/-- The run that one frame asks for. -/
def runOne (frame : Bytes) (runner : η) (runs : ℕ) : Served η :=
  let report := Runner.run runner
  { result := match report.outcome with
      | .error error => .error (.run error)
      | .ok () => .ok (runs + 1)
    after := report.after
    log := .signalReceived (withoutReturn frame).length :: report.log }

/-- The end of a stream after some runs. -/
def atEnd (ending : InputEnd) (runner : η) (runs : ℕ) : Served η :=
  match ending with
  | .closed => ⟨.ok runs, runner, [.streamClosed runs]⟩
  | .failed reason => ⟨.error (.input reason), runner, []⟩

theorem runEach_cons (runner : η) (runs : ℕ) (frame : Bytes) (frames : List Bytes) :
    runEach runner runs (frame :: frames) =
      (runOne frame runner runs).andThen fun runner runs => runEach runner runs frames := by
  rw [runEach, runOne, Served.andThen]
  rcases (Runner.run runner).outcome with error | _ <;> rfl

theorem runOne_of_error {runner : η} {error : RunError}
    (h : (Runner.run runner).outcome = .error error) (frame : Bytes) (runs : ℕ) :
    (runOne frame runner runs).result = .error (.run error) := by
  simp only [runOne, h]

theorem runOne_of_ok {runner : η} (h : (Runner.run runner).outcome = .ok ()) (frame : Bytes)
    (runs : ℕ) : (runOne frame runner runs).result = .ok (runs + 1) := by
  simp only [runOne, h]

/-- Frames in two parts: those of the second part get their runs only where no run of the first
fails. -/
theorem runEach_append (runner : η) (runs : ℕ) (first second : List Bytes) :
    runEach runner runs (first ++ second) =
      (runEach runner runs first).andThen fun runner runs => runEach runner runs second := by
  induction first generalizing runner runs with
  | nil => rfl
  | cons frame first ih =>
    rw [List.cons_append, runEach_cons, runEach_cons, Served.andThen_assoc]
    simp only [ih]

theorem serveEnd_eq (runner : η) (runs : ℕ) (rest : Bytes) (ending : InputEnd) :
    serveEnd runner runs rest ending =
      (runEach runner runs (ofLines ⟨[], rest⟩ ending)).andThen (atEnd ending) := by
  cases ending with
  | closed =>
    simp only [serveEnd, ofLines, List.nil_append]
    generalize runEach runner runs (if rest.isEmpty then [] else [rest]) = served
    obtain ⟨error | runs, after, log⟩ := served <;> rfl
  | failed reason => rfl

/-- The frames of some lines are the complete ones and then what the rest makes up. -/
theorem ofLines_append (complete : List Bytes) (lines : Lines UInt8) (ending : InputEnd) :
    ofLines ⟨complete ++ lines.complete, lines.rest⟩ ending = complete ++ ofLines lines ending := by
  cases ending with
  | closed => exact List.append_assoc ..
  | failed reason => rfl

theorem serveFrom_eq (runner : η) (runs : ℕ) (rest : Bytes) (chunks : List Bytes)
    (ending : InputEnd) :
    serveFrom runner runs rest chunks ending =
      (runEach runner runs
        (ofLines ((Lines.split terminator chunks.flatten).after rest) ending)).andThen
          (atEnd ending) := by
  induction chunks generalizing runner runs rest with
  | nil =>
    rw [serveFrom, serveEnd_eq]
    simp [Lines.after]
  | cons chunk chunks ih =>
    rw [List.flatten_cons, Lines.after_split_append, ofLines_append, runEach_append,
      Served.andThen_assoc]
    simp only [← ih]
    rfl

/-- Serving a stream in chunks is running once for each frame of the whole stream, and then looking
at its end. -/
theorem serve_eq (runner : η) (chunks : List Bytes) (ending : InputEnd) :
    serve runner chunks ending =
      ((runEach runner 0 (ofStream chunks.flatten ending)).andThen (atEnd ending)).behind
        [.workerStarted] := by
  rw [serve, serveFrom_eq, Lines.after_nil]
  rfl

end Frames

end BenchRelay
