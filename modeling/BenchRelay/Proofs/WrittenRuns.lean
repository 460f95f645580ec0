import BenchRelay.Proofs.RunAccounts
import BenchRelay.Proofs.ScriptedRuns

/-!
# Runs that give up at a failed write

A benchmark that gives up at the first write that fails is known to its session by two things: the
whole text that it writes and how it ends if all of it is taken. Where it cuts the text into writes
is never seen, also when a line is refused in the middle of a write: no pending text outlives a
refused line, and no later write is made. The run comes to posting the completed lines and then that
it is done, up to the first of these that is not delivered.
-/

namespace BenchRelay

namespace Activity

variable {μ : Type}

/-- To fail with a failed write, doing nothing before but log. -/
inductive GivesUp (error : SinkError) : Activity μ → Prop
  | finish (memory : μ) : GivesUp error (.finish (.error (.sink error)) memory)
  | log (event : Event) {next : Activity μ} (h : GivesUp error next) :
    GivesUp error (.log event next)

/-- To write a text in pieces and then end with an outcome, giving up at any write that fails. -/
inductive Writes : Activity μ → Text → Except RunError Unit → Prop
  | finish (outcome : Except RunError Unit) (memory : μ) :
    Writes (.finish outcome memory) [] outcome
  | log (event : Event) {next : Activity μ} {text : Text} {outcome : Except RunError Unit}
    (h : Writes next text outcome) : Writes (.log event next) text outcome
  | put (piece : Text) {next : Except SinkError Unit → Activity μ} {text : Text}
    {outcome : Except RunError Unit} (taken : Writes (next (.ok ())) text outcome)
    (refused : ∀ error, GivesUp error (next (.error error))) :
    Writes (.put piece next) (piece ++ text) outcome

variable {σ : Type} [Sink σ] {activity : Activity μ} {text : Text}
  {outcome : Except RunError Unit}

theorem GivesUp.run {error : SinkError} (h : activity.GivesUp error) (relay : Relay σ) :
    (activity.run relay).outcome = .error (.sink error) ∧ (activity.run relay).outlet = relay := by
  induction h with
  | finish memory => exact ⟨rfl, rfl⟩
  | log event _ ih => exact ih

/-- A run in pieces ends as one write of the whole text does. -/
theorem Writes.run (h : activity.Writes text outcome) (relay : Relay σ) :
    (activity.run relay).outcome = ((relay.write text).1.mapError .sink).bind (fun _ => outcome) ∧
      (activity.run relay).outlet = (relay.write text).2 := by
  induction h generalizing relay with
  | finish outcome memory =>
    rw [Relay.write_nil]
    exact ⟨rfl, rfl⟩
  | log event _ ih => exact ih relay
  | @put piece next text outcome _ refused ih =>
    rw [Relay.write_append]
    cases hwrite : relay.write piece with
    | mk taken later =>
      have hput : Outlet.put relay piece = (taken, later) := hwrite
      simp only [Activity.run, hput]
      cases taken with
      | ok => exact ih later
      | error error => exact (refused error).run later

end Activity

/-- The steps of a script that gives up at a failed write. -/
theorem Script.writes_activity {μ : Type} {steps : List Step} (memory : μ)
    (h : ∀ text, .tryPut text ∉ steps) :
    (activity memory steps).Writes (written steps) (outcome steps) := by
  induction steps with
  | nil => exact .finish (.ok ()) memory
  | cons step rest ih =>
    simp only [List.mem_cons, not_or] at h
    cases step with
    | put text => exact .put text (ih fun text => (h text).2) fun error => .finish memory
    | tryPut text => exact absurd rfl (h text).1
    | fail reason => exact .finish (.error (.other reason)) memory

section Pending

variable {μ σ : Type} [Sink σ]

theorem Activity.newline_not_mem_pending_run (activity : Activity μ) {relay : Relay σ}
    (h : '\n' ∉ relay.pending) : '\n' ∉ (activity.run relay).outlet.pending := by
  induction activity generalizing relay with
  | finish outcome memory => exact h
  | log event next ih => exact ih h
  | put text next ih => exact ih _ (Relay.newline_not_mem_pending_write h text)

/-- Between runs no newline is pending. -/
theorem Session.newline_not_mem_pending_afterRuns {start : Session μ σ}
    (h : '\n' ∉ start.relay.pending) (n : ℕ) : '\n' ∉ (start.afterRuns n).relay.pending := by
  induction n with
  | zero => exact h
  | succ n ih =>
    have hexecution : '\n' ∉ (start.afterRuns n).execution.outlet.pending :=
      Activity.newline_not_mem_pending_run _ ih
    rw [afterRuns, (course_run _).pending]
    exact hexecution

end Pending

/-- Of a number of next posts all are accepted, or there is a first that is refused. -/
theorem Recorder.acceptsNext_or_refuses (recorder : Recorder) (count : ℕ) :
    recorder.AcceptsNext count ∨
      ∃ j < count, recorder.AcceptsNext j ∧ recorder.refuses (recorder.posts + j + 1) := by
  induction count with
  | zero => exact .inl fun i hi => absurd hi (Nat.not_lt_zero i)
  | succ count ih =>
    obtain haccepts | ⟨j, hj, haccepts, hrefuses⟩ := ih
    · by_cases hrefuses : recorder.refuses (recorder.posts + count + 1)
      · exact .inr ⟨count, by omega, haccepts, hrefuses⟩
      · refine .inl fun i hi => ?_
        obtain hi | rfl := Nat.lt_succ_iff_lt_or_eq.mp hi
        · exact haccepts i hi
        · simpa using hrefuses
    · exact .inr ⟨j, by omega, haccepts, hrefuses⟩

namespace Session

variable {μ σ : Type} [Sink σ]

/-- A session as it stands, but for what it runs. -/
def withPayload {ν : Type} (session : Session μ σ) (payload : Payload ν) (memory : ν) :
    Session ν σ :=
  ⟨payload, memory, session.relay, session.state, session.completedRuns⟩

variable {session : Session μ σ} {text : Text} {outcome : Except RunError Unit}
  {lines : Lines Char}

/-- A run that gives up at a failed write posts its lines and that it is done up to the first of
these that is not delivered. Only a refused line takes the pending text with it. -/
theorem run_of_writes (session : Session μ σ)
    (h : (session.payload.main session.memory).Writes text outcome)
    (hlines : (Lines.split '\n' text).after session.relay.pending = lines) :
    session.run.outcome =
        ((Sink.postAll session.relay.sink (messages lines.complete outcome)).1.mapError .sink).bind
          (fun _ => outcome) ∧
      session.run.after.relay =
        ⟨(Sink.postAll session.relay.sink (messages lines.complete outcome)).2,
          if (Sink.postAll session.relay.sink (lines.complete.map .stdout)).1 = .ok () then
            lines.rest
          else []⟩ := by
  obtain ⟨houtcome, houtlet⟩ := h.run session.relay
  rw [messages, Sink.postAll_append]
  simp only [Relay.write, hlines] at houtcome houtlet
  cases hposted : Sink.postAll session.relay.sink (lines.complete.map .stdout) with
  | mk taken sink =>
    simp only [hposted] at houtcome houtlet
    cases taken with
    | error error =>
      obtain ⟨hrun, hrelay⟩ := session.course_run.of_error houtcome
      exact ⟨hrun, hrelay.trans houtlet⟩
    | ok =>
      cases outcome with
      | error error =>
        obtain ⟨hrun, hrelay⟩ := session.course_run.of_error houtcome
        exact ⟨hrun, hrelay.trans houtlet⟩
      | ok =>
        obtain ⟨hrun, hrelay⟩ := session.course_run.of_ok houtcome
        have hsink : session.execution.outlet = ⟨sink, lines.rest⟩ := houtlet
        rw [reporting, hsink] at hrun
        rw [hsink] at hrelay
        simp only [if_true, Sink.postAll_singleton]
        refine ⟨hrun.trans ?_, hrelay⟩
        cases (Sink.post sink .done).1 <;> rfl

/-- Runs that write the same text and end alike cannot be told apart by what they leave. -/
theorem run_congr_of_writes {ν : Type} {payload : Payload ν} {memory : ν}
    (h : (session.payload.main session.memory).Writes text outcome)
    (hother : (payload.main memory).Writes text outcome) :
    let other := (session.withPayload payload memory).run
    session.run.outcome = other.outcome ∧ session.run.after.relay = other.after.relay ∧
      session.run.after.completedRuns = other.after.completedRuns := by
  intro other
  obtain ⟨houtcome, hrelay⟩ := session.run_of_writes h rfl
  obtain ⟨hotherOutcome, hotherRelay⟩ :=
    (session.withPayload payload memory).run_of_writes hother rfl
  have hsame : session.run.outcome = other.outcome := houtcome.trans hotherOutcome.symm
  refine ⟨hsame, hrelay.trans hotherRelay.symm, ?_⟩
  rw [session.course_run.completedRuns, hsame]
  exact (course_run (session.withPayload payload memory)).completedRuns.symm

section Recorder

variable {session : Session μ Recorder} {text : Text} {outcome : Except RunError Unit}
  {lines : Lines Char}

/-- Where a recorder accepts all that a run comes to post, the run ends as it is written to. -/
theorem run_of_acceptsNext (h : (session.payload.main session.memory).Writes text outcome)
    (hlines : (Lines.split '\n' text).after session.relay.pending = lines)
    (haccepts : session.relay.sink.AcceptsNext (messages lines.complete outcome).length) :
    session.run.outcome = outcome ∧ session.run.after.relay =
      ⟨session.relay.sink.accept (messages lines.complete outcome), lines.rest⟩ := by
  obtain ⟨houtcome, hrelay⟩ := session.run_of_writes h hlines
  have htaken : (Sink.postAll session.relay.sink (lines.complete.map .stdout)).1 = .ok () := by
    rw [Recorder.postAll_of_acceptsNext]
    intro i hi
    refine haccepts i ?_
    rw [messages, List.length_append]
    omega
  rw [Recorder.postAll_of_acceptsNext _ _ haccepts] at houtcome hrelay
  rw [if_pos htaken] at hrelay
  exact ⟨houtcome, hrelay⟩

/-- Where a recorder refuses one of the messages, those before it are delivered and nothing is from
there on. -/
theorem run_of_refuses (h : (session.payload.main session.memory).Writes text outcome)
    (hlines : (Lines.split '\n' text).after session.relay.pending = lines) {j : ℕ}
    (hj : j < (messages lines.complete outcome).length)
    (haccepts : session.relay.sink.AcceptsNext j)
    (hrefuses : session.relay.sink.refuses (session.relay.sink.posts + j + 1)) :
    session.run.outcome = .error (.sink .disconnected) ∧ session.run.after.relay =
      ⟨{ session.relay.sink with
          posts := session.relay.sink.posts + j + 1
          delivered :=
            session.relay.sink.delivered ++ (messages lines.complete outcome).take j },
        if j < lines.complete.length then [] else lines.rest⟩ := by
  obtain ⟨houtcome, hrelay⟩ := session.run_of_writes h hlines
  have htaken : (Sink.postAll session.relay.sink (lines.complete.map .stdout)).1 = .ok () ↔
      ¬ j < lines.complete.length := by
    constructor
    · intro htaken hline
      rw [Recorder.postAll_of_refuses _ _ (by simpa using hline) haccepts hrefuses] at htaken
      simp at htaken
    · intro hdone
      rw [Recorder.postAll_of_acceptsNext]
      intro i hi
      rw [List.length_map] at hi
      exact haccepts i (by omega)
  rw [Recorder.postAll_of_refuses _ _ hj haccepts hrefuses] at houtcome hrelay
  simp only [htaken, ite_not] at hrelay
  exact ⟨houtcome, hrelay⟩

theorem take_messages {lines : List Text} {j : ℕ} (hj : j < (messages lines outcome).length) :
    (messages lines outcome).take j = (lines.map Message.stdout ++ [Message.done]).take j := by
  by_cases hok : outcome = .ok ()
  · rw [messages_of_ok hok]
  · rw [messages_of_ne_ok hok] at hj ⊢
    rw [List.take_append_of_le_length hj.le]

end Recorder

/-- In any state that a session comes to over a recorder, two runs that give up at a failed write,
write the same text and end alike if all of it is taken, leave the same behind: the outcome, what is
delivered and refused, the count and the pending text. A run that succeeds delivered all lines of
the pending and the written text and then that it is done. One that is ended by its `j`-th post, a
refused one, delivered the messages before it, and what follows the lines is pending only if that
post was no line. -/
theorem runs_of_writes (payload : Payload μ) (memory : μ) (refuses : ℕ → Bool) (n : ℕ)
    {ν ν' : Type} {first : Payload ν} {firstMemory : ν} {second : Payload ν'} {secondMemory : ν'}
    {text : Text} {outcome : Except RunError Unit}
    (hfirst : (first.main firstMemory).Writes text outcome)
    (hsecond : (second.main secondMemory).Writes text outcome) :
    let before := (fresh payload memory ({ refuses } : Recorder)).afterRuns n
    let run := (before.withPayload first firstMemory).run
    let other := (before.withPayload second secondMemory).run
    let lines := Lines.split '\n' (before.relay.pending ++ text)
    let messages := lines.complete.map .stdout ++ [Message.done]
    (run.outcome = other.outcome ∧ run.after.relay = other.after.relay ∧
      run.after.completedRuns = other.after.completedRuns) ∧
    (run.outcome = .ok () →
      run.after.relay.sink.delivered = before.relay.sink.delivered ++ messages ∧
        run.after.relay.pending = lines.rest) ∧
    ∀ j > 0, run.after.relay.sink.posts = before.relay.sink.posts + j →
      refuses (before.relay.sink.posts + j) →
      run.outcome = .error (.sink .disconnected) ∧
        run.after.relay.sink.delivered =
          before.relay.sink.delivered ++ messages.take (j - 1) ∧
        run.after.relay.pending = if j ≤ lines.complete.length then [] else lines.rest := by
  intro before run other lines messages
  let session := before.withPayload first firstMemory
  have hlines : (Lines.split '\n' text).after session.relay.pending = lines :=
    Lines.after_split (newline_not_mem_pending_afterRuns List.not_mem_nil n) text
  have hsame : session.relay.sink.refuses = refuses := refuses_afterRuns rfl n
  refine ⟨session.run_congr_of_writes hfirst hsecond, ?_⟩
  obtain haccepts | ⟨i, hi, haccepts, hrefuses⟩ :=
    session.relay.sink.acceptsNext_or_refuses (Session.messages lines.complete outcome).length
  · obtain ⟨houtcome, hrelay⟩ := run_of_acceptsNext hfirst hlines haccepts
    constructor
    · intro hok
      have hmessages : Session.messages lines.complete outcome = messages :=
        messages_of_ok (houtcome.symm.trans hok) lines.complete
      rw [hmessages] at hrelay
      exact ⟨congrArg (·.sink.delivered) hrelay, congrArg (·.pending) hrelay⟩
    · intro j hpos hposts hrefused
      have hcount : run.after.relay.sink.posts = before.relay.sink.posts +
          (Session.messages lines.complete outcome).length := congrArg (·.sink.posts) hrelay
      have haccepted := haccepts (j - 1) (by omega)
      rw [hsame, Nat.add_assoc, Nat.sub_add_cancel hpos] at haccepted
      exact absurd (haccepted.symm.trans hrefused) Bool.false_ne_true
  · obtain ⟨houtcome, hrelay⟩ := run_of_refuses hfirst hlines hi haccepts hrefuses
    rw [take_messages hi] at hrelay
    constructor
    · intro hok
      exact absurd (houtcome.symm.trans hok) (by simp)
    · intro j hpos hposts hrefused
      have hcount : run.after.relay.sink.posts = before.relay.sink.posts + i + 1 :=
        congrArg (·.sink.posts) hrelay
      obtain rfl : j = i + 1 := by omega
      exact ⟨houtcome, congrArg (·.sink.delivered) hrelay, congrArg (·.pending) hrelay⟩

/-- Behind a pending text, the same text in one write and in four, with its second line refused. -/
theorem runs_of_writes_refused_line :
    let steps : List Script.Step := [.put ['b', '\n', 'c', '\n', 'd']]
    let pieces : List Script.Step := [.put [], .put ['b', '\n', 'c'], .put ['\n'], .put ['d']]
    let payload (steps : List Script.Step) := Script.payload ['s'] [steps]
    let start := fresh (payload [.put ['a']]) 0 ({ refuses := fun m => m = 3 } : Recorder)
    let before := start.afterRuns 1
    let run := (before.withPayload (payload steps) 0).run
    let other := (before.withPayload (payload pieces) 0).run
    (((payload steps).main 0).Writes ['b', '\n', 'c', '\n', 'd'] (.ok ()) ∧
      ((payload pieces).main 0).Writes ['b', '\n', 'c', '\n', 'd'] (.ok ())) ∧
    run.after.relay = other.after.relay ∧ run.outcome = .error (.sink .disconnected) ∧
      run.after.relay.sink.delivered = [.done, .stdout ['a', 'b']] ∧
      run.after.relay.pending = [] := by
  intro steps pieces payload start before run other
  have hsteps : ((payload steps).main 0).Writes ['b', '\n', 'c', '\n', 'd'] (.ok ()) :=
    Script.writes_activity 1 (by simp [Script.stepsOf, steps])
  have hpieces : ((payload pieces).main 0).Writes ['b', '\n', 'c', '\n', 'd'] (.ok ()) :=
    Script.writes_activity 1 (by simp [Script.stepsOf, pieces])
  obtain ⟨⟨-, hrelay, -⟩, -, hrefused⟩ :=
    runs_of_writes (payload [.put ['a']]) 0 (fun m => m = 3) 1 hsteps hpieces
  obtain ⟨houtcome, hdelivered, hpending⟩ := hrefused 2 (by decide) rfl rfl
  exact ⟨⟨hsteps, hpieces⟩, hrelay, houtcome, hdelivered, hpending⟩

end Session

end BenchRelay
