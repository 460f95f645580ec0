import BenchRelay.Proofs.PostedMessages

/-!
# Sessions over sinks that agree

A benchmark that minds only whether a write failed, and not why, goes the same way over two sinks as
long as both deliver or refuse the same of its messages. It is enough that they do so for the
messages that it posts over one of them: up to the first message on which they differ it posts the
same over the other.
-/

namespace BenchRelay

namespace Sink

variable {σ τ : Type} [Sink σ] [Sink τ]

/-- Two sinks agree on messages if, posted to both one after another, each is delivered by both or
by none. -/
def Agree : σ → τ → List Message → Prop
  | _, _, [] => True
  | first, second, message :: rest =>
    ((post first message).1 = .ok () ↔ (post second message).1 = .ok ()) ∧
      Agree (post first message).2 (post second message).2 rest

theorem agree_append {first : σ} {second : τ} {messages more : List Message} :
    Agree first second (messages ++ more) ↔
      Agree first second messages ∧
        Agree (afterPosts first messages) (afterPosts second messages) more := by
  induction messages generalizing first second with
  | nil => simp [Agree]
  | cons message rest ih => rw [List.cons_append, Agree, Agree, ih, and_assoc]; rfl

namespace Agree

variable {first : σ} {second : τ} {messages : List Message}

theorem delivered_eq (h : Agree first second messages) :
    delivered second messages = delivered first messages := by
  induction messages generalizing first second with
  | nil => rfl
  | cons message rest ih =>
    obtain ⟨hfirst, hrest⟩ := h
    rw [delivered, delivered, ih hrest]
    simp only [hfirst]

/-- Sinks that agree on the posts made to the first, up to one that fails, are made the same
posts. -/
theorem attempts_eq (h : Agree first second (attempts first messages)) :
    attempts second messages = attempts first messages := by
  induction messages generalizing first second with
  | nil => rfl
  | cons message rest ih =>
    rw [attempts] at h ⊢
    obtain ⟨hfirst, hrest⟩ := h
    rw [attempts]
    by_cases hok : (post first message).1 = .ok ()
    · rw [if_pos hok] at hrest ⊢
      rw [if_pos (hfirst.mp hok), ih hrest]
    · rw [if_neg hok, if_neg (mt hfirst.mpr hok)]

theorem postAll_eq_ok_iff (h : Agree first second (attempts first messages)) :
    (postAll first messages).1 = .ok () ↔ (postAll second messages).1 = .ok () := by
  induction messages generalizing first second with
  | nil => exact Iff.rfl
  | cons message rest ih =>
    rw [attempts] at h
    obtain ⟨hfirst, hrest⟩ := h
    cases hone : (post first message).1 with
    | ok =>
      rw [if_pos hone] at hrest
      rw [postAll_cons_of_ok hone, postAll_cons_of_ok (hfirst.mp hone)]
      exact ih hrest
    | error error =>
      cases htwo : (post second message).1 with
      | ok => exact absurd (hfirst.mpr htwo) (by simp [hone])
      | error other =>
        rw [postAll_cons_of_error hone, postAll_cons_of_error htwo]
        simp

end Agree

end Sink

variable {μ σ τ : Type} [Sink σ] [Sink τ]

/-- Relays with the same pending text over sinks that agree on what a write posts take the text or
fail alike. -/
theorem Relay.write_of_agree {first : Relay σ} {second : Relay τ}
    (hpending : second.pending = first.pending) {text : Text}
    (h : Sink.Agree first.sink second.sink (Sink.attempts first.sink (first.completed text))) :
    ((first.write text).1 = .ok () ↔ (second.write text).1 = .ok ()) ∧
      (second.write text).2.pending = (first.write text).2.pending := by
  have hposted := h.postAll_eq_ok_iff
  simp only [completed] at hposted
  simp only [write, hpending]
  generalize (Lines.split '\n' text).after first.pending = lines at hposted ⊢
  rcases hone : Sink.postAll first.sink (lines.complete.map .stdout) with ⟨_ | _, sink⟩ <;>
  rcases htwo : Sink.postAll second.sink (lines.complete.map .stdout) with ⟨_ | _, other⟩ <;>
  simp_all

namespace Activity

/-- To write the same texts, end alike and go on alike where writes are taken or fail alike,
whatever the failures say and whatever is logged. Memories are alike by a given relation. -/
inductive Alike (same : μ → μ → Prop) : Activity μ → Activity μ → Prop
  | finish {first second : Except RunError Unit} {memory other : μ}
    (ends : first = .ok () ↔ second = .ok ()) (remembers : same memory other) :
    Alike same (.finish first memory) (.finish second other)
  | logFirst (event : Event) {first second : Activity μ} (h : Alike same first second) :
    Alike same (.log event first) second
  | logSecond (event : Event) {first second : Activity μ} (h : Alike same first second) :
    Alike same first (.log event second)
  | put (text : Text) {first second : Except SinkError Unit → Activity μ}
    (taken : Alike same (first (.ok ())) (second (.ok ())))
    (failed : ∀ error other, Alike same (first (.error error)) (second (.error other))) :
    Alike same (.put text first) (.put text second)

/-- What comes of alike runs over two relays. -/
structure EndsAlike (same : μ → μ → Prop) (first : Execution μ (Relay σ))
    (second : Execution μ (Relay τ)) : Prop where
  outcome : first.outcome = .ok () ↔ second.outcome = .ok ()
  memory : same first.memory second.memory
  pending : second.outlet.pending = first.outlet.pending

/-- Alike benchmarks end alike over relays whose sinks agree on what the first posts, and post the
same. -/
theorem Alike.run {same : μ → μ → Prop} {first second : Activity μ} (h : Alike same first second)
    {relay : Relay σ} {other : Relay τ} (hpending : other.pending = relay.pending)
    (hagree : Sink.Agree relay.sink other.sink (first.posted relay)) :
    EndsAlike same (first.run relay) (second.run other) ∧
      second.posted other = first.posted relay := by
  induction h generalizing relay other with
  | finish ends remembers => exact ⟨⟨ends, remembers, hpending⟩, rfl⟩
  | logFirst event _ ih =>
    obtain ⟨⟨houtcome, hmemory, hrest⟩, hposted⟩ := ih hpending hagree
    exact ⟨⟨houtcome, hmemory, hrest⟩, hposted⟩
  | logSecond event _ ih =>
    obtain ⟨⟨houtcome, hmemory, hrest⟩, hposted⟩ := ih hpending hagree
    exact ⟨⟨houtcome, hmemory, hrest⟩, hposted⟩
  | @put text first second _ _ taken failed =>
    obtain ⟨hwrites, hlater⟩ := Sink.agree_append.mp hagree
    have hattempts : Sink.attempts other.sink (other.completed text) =
        Sink.attempts relay.sink (relay.completed text) := by
      rw [Relay.completed, hpending, ← Relay.completed]
      exact hwrites.attempts_eq
    obtain ⟨htaken, hrest⟩ := Relay.write_of_agree hpending hwrites
    rw [← relay.sink_write, ← hattempts, ← other.sink_write] at hlater
    -- Both benchmarks see a write that was taken, or both one that failed.
    have hnext : EndsAlike same ((first (relay.write text).1).run (relay.write text).2)
          ((second (other.write text).1).run (other.write text).2) ∧
        (second (other.write text).1).posted (other.write text).2 =
          (first (relay.write text).1).posted (relay.write text).2 := by
      cases hone : (relay.write text).1 with
      | ok =>
        rw [hone] at hlater
        rw [htaken.mp hone]
        exact taken hrest hlater
      | error error =>
        cases htwo : (other.write text).1 with
        | ok => exact absurd (htaken.mpr htwo) (by simp [hone])
        | error _ =>
          rw [hone] at hlater
          exact failed _ _ hrest hlater
    obtain ⟨hends, hposted⟩ := hnext
    exact ⟨hends, by rw [posted, posted, hattempts, hposted]⟩

end Activity

/-- A benchmark whose runs mind only whether a write failed, and not why: from memories that are
alike by a given relation its runs are alike. -/
def Payload.MindsFailureOnly (payload : Payload μ) (same : μ → μ → Prop) : Prop :=
  ∀ memory other, same memory other → (payload.main memory).Alike same (payload.main other)

namespace Session

/-- Two sessions of one benchmark over different sinks that have come equally far. -/
structure Alike (same : μ → μ → Prop) (first : Session μ σ) (second : Session μ τ) : Prop where
  payload : second.payload = first.payload
  memory : same first.memory second.memory
  pending : second.relay.pending = first.relay.pending
  state : second.state = first.state
  completedRuns : second.completedRuns = first.completedRuns

theorem Course.memory {session : Session μ σ} {report : Report (Session μ σ)}
    (h : session.Course report) : report.after.memory = session.execution.memory := by
  cases h with
  | failed execution => simp [execution]
  | reported execution _ => simp [execution]
  | unreported execution _ => simp [execution]

section Run

variable {same : μ → μ → Prop} {first : Session μ σ} {second : Session μ τ}

/-- One more run leaves sessions alike if their sinks agree on what the first posts in it. -/
theorem Alike.run (h : first.Alike same second) (hminds : first.payload.MindsFailureOnly same)
    (hagree : Sink.Agree first.relay.sink second.relay.sink first.posted) :
    (first.run.outcome = .ok () ↔ second.run.outcome = .ok ()) ∧
      first.run.after.Alike same second.run.after ∧ second.posted = first.posted := by
  obtain ⟨hlines, hdone⟩ := Sink.agree_append.mp hagree
  have halike : (first.payload.main first.memory).Alike same
      (second.payload.main second.memory) := by
    rw [h.payload]
    exact hminds _ _ h.memory
  obtain ⟨⟨houtcome, hmemory, hpending⟩, hposted⟩ := halike.run h.pending hlines
  change first.execution.outcome = .ok () ↔ second.execution.outcome = .ok () at houtcome
  rw [← sink_execution, ← hposted, ← sink_execution] at hdone
  have hrun : first.run.outcome = .ok () ↔ second.run.outcome = .ok () := by
    rw [first.course_run.outcome_eq_ok_iff, second.course_run.outcome_eq_ok_iff, ← houtcome]
    refine and_congr_right fun hok => ?_
    rw [if_pos hok] at hdone
    exact hdone.1
  refine ⟨hrun, ⟨?_, ?_, ?_, ?_, ?_⟩, ?_⟩
  · rw [first.course_run.payload, second.course_run.payload, h.payload]
  · rw [first.course_run.memory, second.course_run.memory]
    exact hmemory
  · rw [first.course_run.pending, second.course_run.pending]
    exact hpending
  · rw [first.course_run.state, second.course_run.state]
  · simp only [first.course_run.completedRuns, second.course_run.completedRuns, h.completedRuns,
      hrun]
  · simp only [posted, hposted, houtcome]

/-- Runs over two sinks leave sessions alike as long as the sinks agree on what the first posts. -/
theorem Alike.afterRuns (h : first.Alike same second) (hminds : first.payload.MindsFailureOnly same)
    {n : ℕ} (hagree : Sink.Agree first.relay.sink second.relay.sink (first.postedIn n)) :
    (first.afterRuns n).Alike same (second.afterRuns n) ∧
      second.postedIn n = first.postedIn n := by
  induction n with
  | zero => exact ⟨h, rfl⟩
  | succ n ih =>
    rw [postedIn_succ] at hagree
    obtain ⟨hbefore, hlast⟩ := Sink.agree_append.mp hagree
    obtain ⟨halike, hposted⟩ := ih hbefore
    rw [← sink_afterRuns, ← hposted, ← sink_afterRuns] at hlast
    obtain ⟨-, hafter, hlastPosted⟩ :=
      halike.run ((first.payload_afterRuns n).symm ▸ hminds) hlast
    refine ⟨hafter, ?_⟩
    rw [postedIn_succ, postedIn_succ, hposted, hlastPosted]

/-- Where sinks agree on what the first of two alike sessions posts in some runs, each of these runs
succeeds over both sinks or over none. -/
theorem Alike.outcome_afterRuns (h : first.Alike same second)
    (hminds : first.payload.MindsFailureOnly same) {n k : ℕ} (hk : k < n)
    (hagree : Sink.Agree first.relay.sink second.relay.sink (first.postedIn n)) :
    (first.afterRuns k).run.outcome = .ok () ↔ (second.afterRuns k).run.outcome = .ok () := by
  obtain ⟨more, hmore⟩ := first.exists_postedIn_append (Nat.succ_le_of_lt hk)
  rw [hmore, postedIn_succ] at hagree
  obtain ⟨hbefore, hlast⟩ := Sink.agree_append.mp (Sink.agree_append.mp hagree).1
  obtain ⟨halike, hposted⟩ := h.afterRuns hminds hbefore
  rw [← sink_afterRuns, ← hposted, ← sink_afterRuns] at hlast
  exact (halike.run ((first.payload_afterRuns k).symm ▸ hminds) hlast).1

end Run

end Session

end BenchRelay
