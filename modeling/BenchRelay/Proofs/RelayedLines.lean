import BenchRelay.Proofs.Posting

/-!
# What a relay passes on

Over a sink that never fails a relay neither loses nor repeats nor reorders any text. The lines that
it posts and the text that it holds back are the whole written text cut at its newlines, so they do
not depend on how it was cut into writes. A message posted past the relay stands behind the lines
completed before and in front of those completed later.
-/

namespace BenchRelay.Relay

/-- One use of a relay. -/
inductive Step where
  /-- Write a piece of text. -/
  | write (text : Text)
  /-- Write a piece of text to the relay as an outlet. -/
  | put (text : Text)
  /-- Post a message past the pending text. -/
  | post (message : Message)
  deriving Repr, DecidableEq

/-- The text that a step writes. -/
def Step.text : Step → Text
  | .write text | .put text => text
  | .post _ => []

/-- What a step posts, given the lines that it completes. -/
def Step.messages (step : Step) (lines : List Text) : List Message :=
  match step with
  | .write _ | .put _ => lines.map .stdout
  | .post message => [message]

variable {σ : Type} [Sink σ]

/-- Use a relay once. -/
def step (relay : Relay σ) : Step → Except SinkError Unit × Relay σ
  | .write text => relay.write text
  | .put text => Outlet.put relay text
  | .post message => relay.post message

/-- Use a relay several times. -/
def steps (relay : Relay σ) (steps : List Step) : Relay σ :=
  steps.foldl (fun relay step => (relay.step step).2) relay

/-- What has become of some steps on a relay that was fresh over a given sink, where `lines` has the
lines that each of them completed. -/
structure Relayed (sink : σ) (steps : List Step) (lines : List (List Text)) (relay : Relay σ) :
    Prop where
  /-- The sink was posted the lines and the direct messages in the order of the steps. -/
  posted : Sink.postAll sink (List.zipWith Step.messages steps lines).flatten = (.ok (), relay.sink)
  /-- Every line with its newline, and then the pending text, is the whole text. -/
  rejoined : lines.flatten.flatMap (· ++ ['\n']) ++ relay.pending = steps.flatMap Step.text
  /-- No newline is left within a line or the pending text. -/
  noNewline : (∀ line ∈ lines.flatten, '\n' ∉ line) ∧ '\n' ∉ relay.pending
  /-- The lines and the pending text follow from the whole text alone. -/
  cut : Lines.split '\n' (steps.flatMap Step.text) = ⟨lines.flatten, relay.pending⟩
  /-- A direct message completes no line. -/
  direct : ∀ message completed, (Step.post message, completed) ∈ steps.zip lines → completed = []

/-- One step over a sink that never fails: what it posts are the lines that its text completes
behind what was pending, or its message. -/
theorem step_of_neverFails {sink : σ} (h : Sink.NeverFails sink) {pending : Text}
    (hpending : '\n' ∉ pending) (step : Step) :
    ∃ later lines, Sink.NeverFails later ∧
      Lines.split '\n' (pending ++ step.text) = lines ∧
      Sink.postAll sink (step.messages lines.complete) = (.ok (), later) ∧
      Relay.step ⟨sink, pending⟩ step = (.ok (), ⟨later, lines.rest⟩) ∧
      ∀ message, step = .post message → lines.complete = [] := by
  have hwrite (text : Text) : ∃ later lines, Sink.NeverFails later ∧
      Lines.split '\n' (pending ++ text) = lines ∧
      Sink.postAll sink (lines.complete.map .stdout) = (.ok (), later) ∧
      write ⟨sink, pending⟩ text = (.ok (), ⟨later, lines.rest⟩) := by
    obtain ⟨later, hposted, hlater⟩ :=
      h.postAll ((Lines.split '\n' (pending ++ text)).complete.map .stdout)
    refine ⟨later, _, hlater, rfl, hposted, ?_⟩
    simp only [write, Lines.after_split hpending, hposted]
  cases step with
  | write text | put text =>
    obtain ⟨later, lines, hlater, hlines, hposted, hrelay⟩ := hwrite text
    exact ⟨later, lines, hlater, hlines, hposted, hrelay, by simp⟩
  | post message =>
    obtain ⟨later, hposted, hlater⟩ := h.postAll [message]
    refine ⟨later, ⟨[], pending⟩, hlater, ?_, hposted, ?_, fun _ _ => rfl⟩
    · rw [Step.text, List.append_nil, Lines.split_of_not_mem hpending]
    · rw [Sink.postAll_singleton] at hposted
      simp only [Relay.step, post, hposted]

/-- The lines that some steps complete, step by step, on the way through every part of the steps. -/
theorem exists_lines {sink : σ} (h : Sink.NeverFails sink) {pending : Text}
    (hpending : '\n' ∉ pending) (steps : List Step) :
    ∃ lines : List (List Text), lines.length = steps.length ∧
      (∀ message completed, (Step.post message, completed) ∈ steps.zip lines → completed = []) ∧
      ∀ k, let relay := Relay.steps ⟨sink, pending⟩ (steps.take k)
        Sink.postAll sink (List.zipWith Step.messages (steps.take k) (lines.take k)).flatten =
          (.ok (), relay.sink) ∧
        Lines.split '\n' (pending ++ (steps.take k).flatMap Step.text) =
          ⟨(lines.take k).flatten, relay.pending⟩ := by
  -- The later steps see the sink and the pending text that the first one leaves.
  induction steps generalizing sink pending with
  | nil =>
    refine ⟨[], rfl, by simp, fun k => ?_⟩
    simp [Relay.steps, Sink.postAll, Lines.split_of_not_mem hpending]
  | cons step steps ih =>
    obtain ⟨later, first, hlater, hfirst, hposted, hrelay, hdirect⟩ :=
      step_of_neverFails h hpending step
    have hrest : '\n' ∉ first.rest := hfirst ▸ (Lines.clean_split '\n' _).rest
    obtain ⟨lines, hlength, hdirects, hlines⟩ := ih hlater hrest
    refine ⟨first.complete :: lines, by simp [hlength], ?_, fun k => ?_⟩
    · intro message completed hmem
      rcases List.mem_cons.mp hmem with heq | hmem
      · obtain ⟨hstep, rfl⟩ := Prod.mk.inj heq
        exact hdirect message hstep.symm
      · exact hdirects message completed hmem
    · cases k with
      | zero => simp [Relay.steps, Sink.postAll, Lines.split_of_not_mem hpending]
      | succ k =>
        obtain ⟨hsink, hsplit⟩ := hlines k
        have hsteps : Relay.steps ⟨sink, pending⟩ (step :: steps.take k) =
            Relay.steps ⟨later, first.rest⟩ (steps.take k) := by
          simp only [Relay.steps, List.foldl_cons, hrelay]
        simp only [List.take_succ_cons, hsteps, List.zipWith_cons_cons, List.flatten_cons,
          List.flatMap_cons]
        constructor
        · rw [Sink.postAll_append, hposted]
          exact hsink
        · rw [← List.append_assoc, Lines.split_append, hfirst]
          simp only [Lines.after_split hrest, hsplit]

/-- Whatever is done to a fresh relay over a sink that never fails, all text written so far stands
in the posted lines and the pending text at any time, the direct messages stand among the lines
where they were posted, and they leave the pending text alone. -/
theorem steps_relayed {sink : σ} (h : Sink.NeverFails sink) (steps : List Step) :
    (∃ lines : List (List Text), lines.length = steps.length ∧
      ∀ k, Relayed sink (steps.take k) (lines.take k) (Relay.steps { sink } (steps.take k))) ∧
    ∀ k message, steps[k]? = some (.post message) →
      (Relay.steps { sink } (steps.take (k + 1))).pending =
        (Relay.steps { sink } (steps.take k)).pending := by
  obtain ⟨lines, hlength, hdirect, hlines⟩ := exists_lines h (List.not_mem_nil (a := '\n')) steps
  refine ⟨⟨lines, hlength, fun k => ?_⟩, fun k message hstep => ?_⟩
  · obtain ⟨hposted, hcut⟩ := hlines k
    rw [List.nil_append] at hcut
    obtain ⟨hclean, hwhole⟩ := Lines.split_eq_iff.mp hcut
    refine ⟨hposted, hwhole, ⟨hclean.complete, hclean.rest⟩, hcut, ?_⟩
    intro message completed hmem
    rw [List.zip, ← List.take_zipWith] at hmem
    exact hdirect message completed (List.mem_of_mem_take hmem)
  · rw [List.take_add_one, hstep]
    simp only [Relay.steps, List.foldl_append, Option.toList_some, List.foldl_cons, List.foldl_nil]
    rfl

/-- A line in three writes with messages between them, and an empty line. -/
theorem steps_relayed_across_writes :
    let steps : List Step := [.write ['a'], .post .done, .put ['b'], .post (.stdout ['x', '\n']),
      .write ['\n', '\n', 'c']]
    let relay := Relay.steps { sink := ({} : Recorder) } steps
    Sink.NeverFails ({} : Recorder) ∧ (∃ lines, Relayed {} steps lines relay) ∧
      relay.sink.delivered =
        [.done, .stdout ['x', '\n'], .stdout ['a', 'b'], .stdout []] ∧ relay.pending = ['c'] := by
  intro steps relay
  have h : Sink.NeverFails ({} : Recorder) := Recorder.neverFails_of_refuses_none fun _ => rfl
  obtain ⟨⟨lines, hlength, hrelayed⟩, -⟩ := steps_relayed h steps
  have hall := hrelayed steps.length
  rw [List.take_length, ← hlength, List.take_length] at hall
  have hcut := hall.cut.symm
  rw [show Lines.split '\n' (steps.flatMap Step.text) = ⟨[['a', 'b'], []], ['c']⟩ from rfl] at hcut
  exact ⟨h, ⟨lines, hall⟩, rfl, congrArg Lines.rest hcut⟩

end BenchRelay.Relay
