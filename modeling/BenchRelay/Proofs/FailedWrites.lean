import BenchRelay.Proofs.PostedMessages
import BenchRelay.Proofs.RelayedLines

/-!
# What a failed write forgets

A write that fails leaves nothing pending: the line that was not delivered and all text behind it
are gone, and what the relay does from there on is what a fresh relay over the same sink does. So
the texts written to a relay fall into stretches, each ended by a write that fails, and the lines
delivered in a stretch are cut from the texts of that stretch alone.
-/

namespace BenchRelay

namespace Sink

variable {σ : Type} [Sink σ]

/-- Lines are all delivered, or there is a first that is not. -/
theorem postAll_lines_cases (sink : σ) (lines : List Text) :
    (∃ reached, postAll sink (lines.map .stdout) = (.ok (), reached)) ∨
      ∃ before line after reached error failed,
        lines = before ++ line :: after ∧
          postAll sink (before.map .stdout) = (.ok (), reached) ∧
          post reached (.stdout line) = (.error error, failed) := by
  induction lines generalizing sink with
  | nil => exact .inl ⟨sink, rfl⟩
  | cons first lines ih =>
    cases hpost : post sink (.stdout first) with
    | mk outcome later =>
      cases outcome with
      | error error => exact .inr ⟨[], first, lines, sink, error, later, rfl, rfl, hpost⟩
      | ok =>
        have hfirst (rest : List Text) : postAll sink ((first :: rest).map .stdout) =
            postAll later (rest.map .stdout) := by
          simp only [List.map_cons, postAll, hpost]
        obtain ⟨reached, hall⟩ | ⟨before, line, after, reached, error, failed, hsplit, htaken,
          hrefused⟩ := ih later
        · exact .inl ⟨reached, (hfirst lines).trans hall⟩
        · refine .inr ⟨first :: before, line, after, reached, error, failed, ?_, ?_, hrefused⟩
          · rw [hsplit, List.cons_append]
          · exact (hfirst before).trans htaken

theorem postAll_of_refused {sink reached failed : σ} {before : List Message} {message : Message}
    {error : SinkError} (htaken : postAll sink before = (.ok (), reached))
    (hrefused : post reached message = (.error error, failed)) (after : List Message) :
    postAll sink (before ++ message :: after) = (.error error, failed) := by
  rw [postAll_append, htaken]
  simp only [postAll, hrefused]

/-- A view to which every delivered message is added has all of several that are. -/
theorem Keeps.holds_postAll {holds : σ → List Message → Prop} (h : Keeps holds (· = .ok ()))
    {sink reached : σ} {earlier messages : List Message} (hsink : holds sink earlier)
    (htaken : postAll sink messages = (.ok (), reached)) : holds reached (earlier ++ messages) := by
  induction messages generalizing sink earlier with
  | nil =>
    obtain rfl : sink = reached := congrArg Prod.snd htaken
    simpa using hsink
  | cons first messages ih =>
    cases hpost : (post sink first).1 with
    | ok =>
      rw [postAll_cons_of_ok hpost] at htaken
      simpa using ih (h.arrived hsink hpost) htaken
    | error error =>
      rw [postAll_cons_of_error hpost] at htaken
      exact absurd (congrArg Prod.fst htaken) (by simp)

end Sink

namespace Relay

variable {σ : Type} [Sink σ]

/-- Where a line is refused the write fails, and a fresh relay is left over the sink. -/
theorem write_of_refused {relay : Relay σ} {text : Text} {before after : List Text} {line : Text}
    (hlines : ((Lines.split '\n' text).after relay.pending).complete = before ++ line :: after)
    {reached failed : σ} {error : SinkError}
    (htaken : Sink.postAll relay.sink (before.map .stdout) = (.ok (), reached))
    (hrefused : Sink.post reached (.stdout line) = (.error error, failed)) :
    relay.write text = (.error error, { sink := failed }) := by
  have hposted := Sink.postAll_of_refused htaken hrefused (after.map .stdout)
  rw [write, hlines, List.map_append, List.map_cons, hposted]

/-- Where no line is refused the write succeeds, and what is no line is pending. -/
theorem write_of_taken {relay : Relay σ} {text : Text} {lines : Lines Char}
    (hlines : (Lines.split '\n' text).after relay.pending = lines) {reached : σ}
    (htaken : Sink.postAll relay.sink (lines.complete.map .stdout) = (.ok (), reached)) :
    relay.write text = (.ok (), ⟨reached, lines.rest⟩) := by
  simp only [write, hlines, htaken]

/-- Use a relay several times, whatever becomes of each use: what becomes of it, and the relay
behind it. -/
def trace (relay : Relay σ) : List Step → List (Except SinkError Unit × Relay σ)
  | [] => []
  | first :: rest => relay.step first :: (relay.step first).2.trace rest

/-- No newline is pending whatever was done to a fresh relay. -/
theorem newline_not_mem_pending_steps {relay : Relay σ} (h : '\n' ∉ relay.pending)
    (done : List Step) : '\n' ∉ (relay.steps done).pending := by
  induction done generalizing relay with
  | nil => exact h
  | cons first rest ih =>
    have hfirst : '\n' ∉ (relay.step first).2.pending := by
      cases first with
      | write text | put text => exact newline_not_mem_pending_write h text
      | post message => exact h
    exact ih hfirst

/-- What a text completes behind the pending text of a relay is cut from both together. -/
theorem after_split_steps (sink : σ) (done : List Step) (text : Text) :
    (Lines.split '\n' text).after (steps { sink } done).pending =
      Lines.split '\n' ((steps { sink } done).pending ++ text) :=
  Lines.after_split (newline_not_mem_pending_steps List.not_mem_nil done) text

/-- What becomes of texts written one after another to a fresh relay over a sink. They fall into
stretches: writes that succeed and then one that fails, or at the end those that succeed. With the
outcomes of the writes, the messages that are delivered and the relay behind them. -/
inductive Stretches : σ → List Text → List (Except SinkError Unit) → List Message → Relay σ → Prop
  /-- The last stretch, in which every line of its texts is delivered. -/
  | last {sink reached : σ} {texts : List Text} {lines : Lines Char}
    (cut : Lines.split '\n' texts.flatten = lines)
    (taken : Sink.postAll sink (lines.complete.map .stdout) = (.ok (), reached)) :
    Stretches sink texts (List.replicate texts.length (.ok ())) (lines.complete.map .stdout)
      ⟨reached, lines.rest⟩
  /-- A stretch that ends with a write of which a line is refused. The lines before it are delivered
  and what comes later has no part in this stretch. -/
  | failing {sink reached failed : σ} {texts rest : List Text} {text line : Text}
    {before after : List Text} {error : SinkError} {outcomes : List (Except SinkError Unit)}
    {delivered : List Message} {relay : Relay σ}
    (cut : (Lines.split '\n' (texts.flatten ++ text)).complete = before ++ line :: after)
    (earlier : (Lines.split '\n' texts.flatten).complete <+: before)
    (taken : Sink.postAll sink (before.map .stdout) = (.ok (), reached))
    (refused : Sink.post reached (.stdout line) = (.error error, failed))
    (later : Stretches failed rest outcomes delivered relay) :
    Stretches sink (texts ++ text :: rest)
      (List.replicate texts.length (.ok ()) ++ .error error :: outcomes)
      (before.map .stdout ++ delivered) relay

/-- The stretches of texts of which the first ones are already written and taken. -/
theorem exists_stretches_of_taken {sink reached : σ} (texts : List Text) (lines : Lines Char)
    (hcut : Lines.split '\n' texts.flatten = lines)
    (htaken : Sink.postAll sink (lines.complete.map .stdout) = (.ok (), reached))
    (rest : List Text) :
    ∃ delivered, Stretches sink (texts ++ rest)
      (List.replicate texts.length (.ok ()) ++
        (trace ⟨reached, lines.rest⟩ (rest.map .write)).map Prod.fst)
      delivered (steps ⟨reached, lines.rest⟩ (rest.map .write)) := by
  induction rest generalizing sink reached texts lines with
  | nil => exact ⟨_, by simpa [trace] using .last hcut htaken⟩
  | cons text rest ih =>
    have hboth := Lines.split_append '\n' texts.flatten text
    simp only [hcut] at hboth
    generalize hmore : (Lines.split '\n' text).after lines.rest = more at hboth
    obtain ⟨next, hnext⟩ | ⟨before, line, after, next, error, failed, hsplit, hbefore,
      hrefused⟩ := Sink.postAll_lines_cases reached more.complete
    · -- The write is taken and belongs to the same stretch.
      have hwrite : step ⟨reached, lines.rest⟩ (.write text) = (.ok (), ⟨next, more.rest⟩) :=
        write_of_taken hmore hnext
      have hposted : Sink.postAll sink ((lines.complete ++ more.complete).map .stdout) =
          (.ok (), next) := by
        rw [List.map_append, Sink.postAll_append, htaken]
        exact hnext
      obtain ⟨delivered, hstretches⟩ := ih (texts ++ [text])
        ⟨lines.complete ++ more.complete, more.rest⟩
        (by rw [List.flatten_append, List.flatten_singleton, hboth]) hposted
      refine ⟨delivered, ?_⟩
      simp only [List.map_cons, trace, steps, List.foldl_cons, hwrite]
      simpa [List.replicate_add, List.append_assoc, steps] using hstretches
    · -- The write fails, and a fresh relay begins the next stretch.
      have hwrite : step ⟨reached, lines.rest⟩ (.write text) = (.error error, { sink := failed }) :=
        write_of_refused (hmore ▸ hsplit) hbefore hrefused
      have hposted :
          Sink.postAll sink ((lines.complete ++ before).map .stdout) = (.ok (), next) := by
        rw [List.map_append, Sink.postAll_append, htaken]
        exact hbefore
      obtain ⟨delivered, hstretches⟩ :=
        ih [] ⟨[], []⟩ rfl (rfl : Sink.postAll failed _ = _)
      refine ⟨(lines.complete ++ before).map .stdout ++ delivered, ?_⟩
      simp only [List.map_cons, trace, steps, List.foldl_cons, hwrite]
      have hcutBoth : (Lines.split '\n' (texts.flatten ++ text)).complete =
          lines.complete ++ before ++ line :: after := by
        rw [hboth, hsplit, List.append_assoc]
      have hearlier : (Lines.split '\n' texts.flatten).complete <+: lines.complete ++ before := by
        rw [hcut]
        exact List.prefix_append _ _
      exact .failing hcutBoth hearlier hposted hrefused hstretches

theorem exists_stretches (sink : σ) (texts : List Text) :
    ∃ delivered, Stretches sink texts ((trace { sink } (texts.map .write)).map Prod.fst) delivered
      (steps { sink } (texts.map .write)) :=
  exists_stretches_of_taken [] ⟨[], []⟩ rfl
    (rfl : Sink.postAll sink _ = _) texts

/-- The messages of the stretches are those that the sink delivers. -/
theorem Stretches.holds {holds : σ → List Message → Prop} (hkeeps : Sink.Keeps holds (· = .ok ()))
    {sink : σ} {texts : List Text} {outcomes : List (Except SinkError Unit)}
    {delivered : List Message} {relay : Relay σ}
    (h : Stretches sink texts outcomes delivered relay) {earlier : List Message}
    (hsink : holds sink earlier) : holds relay.sink (earlier ++ delivered) := by
  induction h generalizing earlier with
  | last _ taken => exact hkeeps.holds_postAll hsink taken
  | @failing sink reached failed _ _ _ line _ _ error _ _ _ _ _ taken refused _ ih =>
    have hreached := hkeeps.holds_postAll hsink taken
    have hlost : ¬ (Sink.post reached (.stdout line)).1 = .ok () := by simp [refused]
    have hfailed := hkeeps.lost hreached hlost
    rw [refused] at hfailed
    rw [← List.append_assoc]
    exact ih hfailed

/-- A write of which a line is refused delivers the lines before it, posts none behind it, and
forgets that line and all text behind it: whatever is done later comes out as on a fresh relay over
the same sink. A write of which no line is refused loses nothing. So of texts written one after
another the sink delivers the lines of each stretch up to its failing write, and the stretches have
nothing to do with each other. -/
theorem failed_write_forgets (earlier : List Step) (text : Text) (texts : List Text) :
    (∀ {σ : Type} [Sink σ] (sink : σ),
      let relay := steps { sink } earlier
      let lines := Lines.split '\n' (relay.pending ++ text)
      '\n' ∉ relay.pending ∧
      (∀ before line after, lines.complete = before ++ line :: after →
        ∀ reached error failed, Sink.postAll relay.sink (before.map .stdout) = (.ok (), reached) →
          Sink.post reached (.stdout line) = (.error error, failed) →
          relay.write text = (.error error, { sink := failed }) ∧
          ∀ later, (relay.write text).2.trace later = trace { sink := failed } later) ∧
      (∀ reached, Sink.postAll relay.sink (lines.complete.map .stdout) = (.ok (), reached) →
        relay.write text = (.ok (), ⟨reached, lines.rest⟩) ∧
        lines.unsplit '\n' = relay.pending ++ text) ∧
      ∃ delivered, Stretches sink texts ((trace { sink } (texts.map .write)).map Prod.fst) delivered
        (steps { sink } (texts.map .write))) ∧
    ∀ sink : Recorder,
      let relay := steps { sink } earlier
      let lines := Lines.split '\n' (relay.pending ++ text)
      (∀ j < lines.complete.length, relay.sink.AcceptsNext j →
        relay.sink.refuses (relay.sink.posts + j + 1) →
          (relay.write text).1 = .error .disconnected ∧
          (relay.write text).2.sink.delivered =
            relay.sink.delivered ++ (lines.complete.take j).map .stdout ∧
          (relay.write text).2.sink.posts = relay.sink.posts + j + 1 ∧
          (relay.write text).2.pending = []) ∧
      ∀ outcomes delivered later, Stretches sink texts outcomes delivered later →
        later.sink.delivered = sink.delivered ++ delivered := by
  constructor
  · intro σ _ sink relay lines
    have hlines : (Lines.split '\n' text).after relay.pending = lines :=
      after_split_steps sink earlier text
    refine ⟨newline_not_mem_pending_steps List.not_mem_nil earlier, ?_, ?_,
      exists_stretches sink texts⟩
    · intro before line after hsplit reached error failed htaken hrefused
      have hwrite := write_of_refused (hlines ▸ hsplit) htaken hrefused
      exact ⟨hwrite, fun later => by rw [hwrite]⟩
    · intro reached htaken
      exact ⟨write_of_taken hlines htaken, Lines.unsplit_split '\n' _⟩
  · intro sink relay lines
    have hlines : (Lines.split '\n' text).after relay.pending = lines :=
      after_split_steps sink earlier text
    refine ⟨fun j hj haccepts hrefuses => ?_, fun outcomes delivered later hstretches => ?_⟩
    · have hwrite := write_of_refuses hlines hj haccepts hrefuses
      rw [show relay.write text = _ from hwrite]
      exact ⟨rfl, rfl, rfl, rfl⟩
    · exact (hstretches.holds (Recorder.keeps sink.refuses) ⟨rfl, rfl⟩).2

/-- The second of the lines that a write completes is refused, and a later write knows nothing of
it. -/
theorem failed_write_forgets_second_line :
    let sink : Recorder := { refuses := fun n => n = 2 }
    let failed : Recorder := { sink with posts := 2, delivered := [.stdout ['a', 'b']] }
    let relay := steps { sink } [.write ['a']]
    let text : Text := ['b', '\n', 'c', '\n', 'd']
    relay.write text = (.error .disconnected, { sink := failed }) ∧
      (relay.write text).2.trace [.write ['e', '\n']] =
        trace { sink := failed } [.write ['e', '\n']] ∧
      relay.sink.AcceptsNext 1 ∧ (relay.write text).2.sink.delivered = [.stdout ['a', 'b']] ∧
      (steps { sink } [.write ['a'], .write text, .write ['e', '\n']]).sink.delivered =
        [.stdout ['a', 'b'], .stdout ['e']] ∧
      ∃ delivered, Stretches sink [['a'], text, ['e', '\n']] [.ok (), .error .disconnected, .ok ()]
        delivered (steps { sink } [.write ['a'], .write text, .write ['e', '\n']]) ∧
        delivered = [.stdout ['a', 'b'], .stdout ['e']] := by
  intro sink failed relay text
  obtain ⟨hgeneric, hrecorder⟩ :=
    failed_write_forgets [.write ['a']] text [['a'], text, ['e', '\n']]
  obtain ⟨-, hforgets, -, delivered, hstretches⟩ := hgeneric sink
  obtain ⟨hwrite, htrace⟩ := hforgets [['a', 'b']] ['c'] [] rfl
    { sink with posts := 1, delivered := [.stdout ['a', 'b']] } .disconnected failed rfl rfl
  obtain ⟨hrefused, hdelivered⟩ := hrecorder sink
  have haccepts : relay.sink.AcceptsNext 1 := by
    intro i hi
    obtain rfl : i = 0 := by omega
    rfl
  obtain ⟨-, hone, -, -⟩ := hrefused 1 (by decide) haccepts rfl
  have hall : [Message.stdout ['a', 'b'], .stdout ['e']] = [] ++ delivered :=
    hdelivered _ delivered _ hstretches
  exact ⟨hwrite, htrace _, haccepts, hone, rfl, delivered, hstretches, hall.symm⟩

end Relay

end BenchRelay
