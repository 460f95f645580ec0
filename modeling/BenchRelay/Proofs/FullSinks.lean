import BenchRelay.Payload.Script
import BenchRelay.Proofs.AlikeSinks

/-!
# Sinks that run full

A writer that runs full in the middle of a line, a recorder that refuses all posts from that one on,
and a mailbox whose receiver goes away just before it are the same sink to a session: they deliver
the same messages and refuse the same, and only the failures say different things. What the writer
tears is never taken for a message.
-/

namespace BenchRelay

namespace Sink

variable {σ τ : Type} [Sink σ] [Sink τ]

/-- Of messages posted one after another a sink delivers the first so many, or all of them, and none
of the others. -/
def StopsAfter : σ → Option ℕ → List Message → Prop
  | _, _, [] => True
  | sink, count, message :: rest =>
    ((post sink message).1 = .ok () ↔ count ≠ some 0) ∧
      StopsAfter (post sink message).2 (count.map (· - 1)) rest

/-- Sinks that deliver equally many messages agree on all. -/
theorem agree_of_stopsAfter {first : σ} {second : τ} {count : Option ℕ} {messages : List Message}
    (hfirst : StopsAfter first count messages) (hsecond : StopsAfter second count messages) :
    Agree first second messages := by
  induction messages generalizing first second count with
  | nil => trivial
  | cons message rest ih =>
    obtain ⟨hone, honeRest⟩ := hfirst
    obtain ⟨htwo, htwoRest⟩ := hsecond
    exact ⟨hone.trans htwo.symm, ih honeRest htwoRest⟩

/-- A sink that counts its posts and delivers only so many stops after what is left of them. -/
theorem stopsAfter_of_counts {count : Option ℕ} {counts : σ → ℕ → Prop}
    (hpost : ∀ {sink n}, counts sink n → ∀ message,
      ((post sink message).1 = .ok () ↔ count.all (n < ·) = true) ∧
        counts (post sink message).2 (n + 1))
    (sink : σ) {n : ℕ} (h : counts sink n) (messages : List Message) :
    StopsAfter sink (count.map (· - n)) messages := by
  induction messages generalizing sink n with
  | nil => trivial
  | cons message rest ih =>
    obtain ⟨hdelivers, hnext⟩ := hpost h message
    have hrest := ih _ hnext
    refine ⟨hdelivers.trans ?_, ?_⟩
    · cases count with
      | none => simp
      | some count => simp; omega
    · simpa [Function.comp_def, Nat.sub_sub] using hrest

end Sink

theorem Recorder.stopsAfter (count : Option ℕ) (messages : List Message) :
    Sink.StopsAfter ({ refuses := fun post => count.any (· < post) } : Recorder) count
      messages := by
  have hpost {recorder : Recorder} {n : ℕ}
      (h : (recorder.refuses = fun post => count.any (· < post)) ∧ recorder.posts = n)
      (message : Message) :
      ((Sink.post recorder message).1 = .ok () ↔ count.all (n < ·) = true) ∧
        ((Sink.post recorder message).2.refuses = fun post => count.any (· < post)) ∧
        (Sink.post recorder message).2.posts = n + 1 := by
    obtain ⟨hrefuses, rfl⟩ := h
    have hrefused : recorder.refuses (recorder.posts + 1) =
        !count.all (recorder.posts < ·) := by
      cases count with
      | none => simp only [hrefuses, Option.any_none, Option.all_none, Bool.not_true]
      | some count =>
        simp only [hrefuses, Option.any_some, Option.all_some, ← decide_not]
        exact decide_eq_decide.mpr (by omega)
    simp only [Sink.post, Recorder.post, hrefused]
    split <;> simp_all
  simpa using Sink.stopsAfter_of_counts hpost { refuses := fun post => count.any (· < post) }
    ⟨rfl, rfl⟩ messages

theorem Mailbox.stopsAfter (count : Option ℕ) (messages : List Message) :
    Sink.StopsAfter ({ receivesFor := count } : Mailbox) count messages := by
  have hpost {mailbox : Mailbox} {n : ℕ} (h : mailbox.receivesFor = count ∧ mailbox.posts = n)
      (message : Message) :
      ((Sink.post mailbox message).1 = .ok () ↔ count.all (n < ·) = true) ∧
        (Sink.post mailbox message).2.receivesFor = count ∧
        (Sink.post mailbox message).2.posts = n + 1 := by
    obtain ⟨rfl, rfl⟩ := h
    have hopen : mailbox.isOpen = mailbox.receivesFor.all (mailbox.posts < ·) := by
      rw [Mailbox.isOpen]
      split <;> simp [*]
    rw [← hopen]
    cases hstays : mailbox.isOpen <;> simp [Sink.post, Mailbox.post, hstays]
  simpa using Sink.stopsAfter_of_counts hpost { receivesFor := count } ⟨rfl, rfl⟩ messages

/-- How many messages come before the first whose line does not fit into what is left of a capacity;
`none` if all of them fit. -/
def Message.fitting? : Option ℕ → List Message → Option ℕ
  | _, [] => none
  | left, message :: rest =>
    if left.any (· < message.line.length) then some 0
    else (fitting? (left.map (· - message.line.length)) rest).map (· + 1)

namespace Writer

/-- How many more bytes a writer takes; `none` if it never runs full. -/
def left (writer : Writer) : Option ℕ := writer.capacity.map (· - writer.written.length)

/-- A writer that took no more than fits, and of which no flush fails. -/
structure Flushes (writer : Writer) : Prop where
  flush : ∀ n, writer.failsFlush n = false
  fits : ∀ capacity, writer.capacity = some capacity → writer.written.length ≤ capacity

/-- What writing and flushing preserve, a post preserves. -/
theorem post_preserves (holds : Writer → Prop)
    (hwrite : ∀ writer b, holds writer → holds (writer.write b).2)
    (hflush : ∀ writer, holds writer → holds writer.flush.2) {writer : Writer} (h : holds writer)
    (message : Message) : holds (Sink.post writer message).2 := by
  have htext := hwrite writer message.toJson.utf8 h
  simp only [Sink.post, post]
  generalize writer.write message.toJson.utf8 = texted at htext
  obtain ⟨_ | _, texted⟩ := texted
  · exact htext
  have hend := hwrite texted [Message.newline] htext
  dsimp only
  generalize texted.write [Message.newline] = ended at hend
  obtain ⟨_ | _, ended⟩ := ended
  · exact hend
  have hdone := hflush ended hend
  dsimp only
  generalize ended.flush = flushed at hdone
  obtain ⟨_ | _, flushed⟩ := flushed <;> exact hdone

theorem write_keeps (writer : Writer) (b : Bytes) :
    (writer.write b).2.capacity = writer.capacity ∧
      (writer.write b).2.failsFlush = writer.failsFlush := by
  simp only [write]
  split <;> exact ⟨rfl, rfl⟩

theorem capacity_post (writer : Writer) (message : Message) :
    (Sink.post writer message).2.capacity = writer.capacity :=
  post_preserves (fun later => later.capacity = writer.capacity)
    (fun later b h => (later.write_keeps b).1.trans h) (fun _ h => h) rfl message

theorem Flushes.write {writer : Writer} (h : writer.Flushes) (b : Bytes) :
    (writer.write b).2.Flushes where
  flush n := by rw [(writer.write_keeps b).2, h.flush]
  fits capacity hcapacity := by
    rw [(writer.write_keeps b).1] at hcapacity
    have hfits := h.fits capacity hcapacity
    rw [written_write, List.length_append, List.length_take]
    simp only [room, hcapacity, written, List.length_reverse] at hfits ⊢
    omega

theorem Flushes.post {writer : Writer} (h : writer.Flushes) (message : Message) :
    (Sink.post writer message).2.Flushes :=
  post_preserves Flushes (fun _ b h => h.write b) (fun _ h => ⟨h.flush, h.fits⟩) h message

/-- Where no flush fails, a post whose line is written whole succeeds. -/
theorem Flushes.post_eq_ok_iff {writer : Writer} (h : writer.Flushes) (message : Message) :
    (Sink.post writer message).1 = .ok () ↔ WritesLine (Sink.post writer message).1 := by
  refine ⟨.inl, fun hwrites => ?_⟩
  have htext := h.write message.toJson.utf8
  simp only [Sink.post, Writer.post] at hwrites ⊢
  obtain ⟨texted, -, ⟨hwrite, -⟩ | ⟨hwrite, -⟩⟩ := writer.write_cases message.toJson.utf8
  · rw [hwrite] at hwrites htext ⊢
    have hend := htext.write [Message.newline]
    obtain ⟨ended, -, ⟨hwrite, -⟩ | ⟨hwrite, -⟩⟩ := texted.write_cases [Message.newline]
    · simp only [hwrite] at hend ⊢
      simp [Writer.flush, hend.flush]
    · simp only [hwrite] at hwrites
      exact absurd hwrites (not_writesLine_of_whenFull _)
  · rw [hwrite] at hwrites
    exact absurd hwrites (by simp [WritesLine])

/-- A post succeeds if the line fits into what is left, and takes its room. -/
theorem Flushes.post_of_fits {writer : Writer} (h : writer.Flushes) {message : Message}
    (hline : writer.left.any (· < message.line.length) = false) :
    (Sink.post writer message).1 = .ok () ∧
      (Sink.post writer message).2.left = writer.left.map (· - message.line.length) := by
  obtain ⟨-, hwrites, hwritten⟩ | ⟨⟨capacity, hcapacity, hfull⟩, -, count, hpiece⟩ :=
    writer.post_cases message
  · refine ⟨(h.post_eq_ok_iff message).mpr hwrites, ?_⟩
    rw [left, left, capacity_post, hwritten, Option.map_map]
    simp only [List.length_append, Function.comp_def, Nat.sub_sub]
  · -- Less than the line was written, and still the writer is full.
    rw [capacity_post] at hcapacity
    rw [hpiece, List.length_append, List.length_take] at hfull
    have hlength : message.line.length = message.body.length + 1 := List.length_append
    simp only [left, hcapacity, Option.map_some, Option.any_some, decide_eq_false_iff_not] at hline
    omega

/-- A post fails if the line does not fit into what is left, and leaves the writer full. -/
theorem Flushes.post_of_not_fits {writer : Writer} (h : writer.Flushes) {message : Message}
    (hline : writer.left.any (· < message.line.length) = true) :
    (Sink.post writer message).1 ≠ .ok () ∧ (Sink.post writer message).2.Full := by
  obtain ⟨-, -, hwritten⟩ | ⟨hfull, hlost, -⟩ := writer.post_cases message
  · -- The whole line was written, so there was room for it.
    have hfits := (h.post message).fits
    rw [capacity_post, hwritten, List.length_append] at hfits
    cases hcapacity : writer.capacity with
    | none => simp [left, hcapacity] at hline
    | some capacity =>
      have hroom := hfits capacity hcapacity
      simp only [left, hcapacity, Option.map_some, Option.any_some, decide_eq_true_eq] at hline
      omega
  · exact ⟨fun hok => hlost (.inl hok), hfull⟩

/-- A full writer delivers nothing. -/
theorem stopsAfter_of_full {writer : Writer} (h : writer.Full) (messages : List Message) :
    Sink.StopsAfter writer (some 0) messages := by
  induction messages generalizing writer with
  | nil => trivial
  | cons message rest ih =>
    obtain ⟨hnotFull, -⟩ | ⟨hfull, hlost, -⟩ := writer.post_cases message
    · exact absurd h hnotFull
    · exact ⟨by simpa using fun hok => hlost (.inl hok), ih hfull⟩

/-- A writer delivers the messages before the first whose line does not fit. -/
theorem Flushes.stopsAfter {writer : Writer} (h : writer.Flushes) (messages : List Message) :
    Sink.StopsAfter writer (Message.fitting? writer.left messages) messages := by
  induction messages generalizing writer with
  | nil => trivial
  | cons message rest ih =>
    rw [Message.fitting?]
    cases hline : writer.left.any (· < message.line.length) with
    | true =>
      obtain ⟨hfails, hfull⟩ := h.post_of_not_fits hline
      exact ⟨by simpa using hfails, stopsAfter_of_full hfull rest⟩
    | false =>
      obtain ⟨hok, hleft⟩ := h.post_of_fits hline
      have hrest := ih (h.post message)
      rw [hleft] at hrest
      refine ⟨by simp [hok], ?_⟩
      simpa [Function.comp_def] using hrest

/-- Where no flush fails, a writer has the lines of what it delivered. -/
theorem keeps_of_flushes : Sink.Keeps (fun writer : Writer => fun messages =>
    writer.HasLines messages ∧ writer.Flushes) (· = .ok ()) where
  arrived h hok := ⟨keeps.arrived h.1 (.inl hok), h.2.post _⟩
  lost h hfails := ⟨keeps.lost h.1 (mt (h.2.post_eq_ok_iff _).mpr hfails), h.2.post _⟩

end Writer

theorem Recorder.delivered_afterPosts (refuses : ℕ → Bool) (messages : List Message) :
    (Sink.afterPosts ({ refuses } : Recorder) messages).delivered =
      Sink.delivered ({ refuses } : Recorder) messages :=
  ((Recorder.keeps refuses).holds_delivered ⟨rfl, rfl⟩ messages).2

theorem Mailbox.delivered_afterPosts (receivesFor : Option ℕ) (messages : List Message) :
    (Sink.afterPosts ({ receivesFor } : Mailbox) messages).delivered =
      Sink.delivered ({ receivesFor } : Mailbox) messages :=
  ((Mailbox.keeps receivesFor).holds_delivered ⟨rfl, rfl⟩ messages).2

theorem Writer.flushes_fresh (capacity : Option ℕ) (whenFull : WhenFull) :
    ({ capacity, whenFull } : Writer).Flushes :=
  ⟨fun _ => rfl, fun _ _ => Nat.zero_le _⟩

theorem Writer.stopsAfter (capacity : Option ℕ) (whenFull : WhenFull) (messages : List Message) :
    Sink.StopsAfter ({ capacity, whenFull } : Writer) (Message.fitting? capacity messages)
      messages := by
  have hleft : ({ capacity, whenFull } : Writer).left = capacity := by simp [left, written]
  simpa only [hleft] using (Writer.flushes_fresh capacity whenFull).stopsAfter messages

/-- The complete lines of a writer read as what it delivered. -/
theorem Writer.read_afterPosts (capacity : Option ℕ) (whenFull : WhenFull)
    (messages : List Message) :
    (Lines.split Message.newline
        (Sink.afterPosts ({ capacity, whenFull } : Writer) messages).written).complete.mapM
      Message.ofLine? = some (Sink.delivered ({ capacity, whenFull } : Writer) messages) := by
  have hfresh : ({ capacity, whenFull } : Writer).HasLines [] :=
    ⟨[], rfl, List.not_mem_nil, .inl rfl⟩
  have hlines := Writer.keeps_of_flushes.holds_delivered
    ⟨hfresh, Writer.flushes_fresh capacity whenFull⟩ messages
  rw [Writer.complete_of_hasLines hlines.1, Message.mapM_ofLine?_body, List.nil_append]

namespace Session

variable {μ σ τ : Type} [Sink σ] [Sink τ]

/-- Where sinks agree on what the first of two alike sessions posts in some runs, they also deliver
the same in fewer runs. -/
theorem Alike.delivered_eq {same : μ → μ → Prop} {first : Session μ σ} {second : Session μ τ}
    (h : first.Alike same second) (hminds : first.payload.MindsFailureOnly same) {m n : ℕ}
    (hm : m ≤ n) (hagree : Sink.Agree first.relay.sink second.relay.sink (first.postedIn n)) :
    (first.afterRuns m).Alike same (second.afterRuns m) ∧
      Sink.delivered second.relay.sink (second.postedIn m) =
        Sink.delivered first.relay.sink (first.postedIn m) := by
  obtain ⟨more, hmore⟩ := first.exists_postedIn_append hm
  rw [hmore] at hagree
  obtain ⟨hbefore, -⟩ := Sink.agree_append.mp hagree
  obtain ⟨halike, hposted⟩ := h.afterRuns hminds hbefore
  exact ⟨halike, by rw [hposted, hbefore.delivered_eq]⟩

/-- A benchmark that minds only whether a write failed cannot tell three sinks from each other: a
writer with room for some bytes, a recorder that refuses all posts from the first on whose line does
not fit into the writer, and a mailbox whose receiver goes away just before that post. Each run
succeeds over all three or over none and leaves the same state, count of runs and pending text; and
the complete lines in the writer read as the messages that were recorded and received. -/
theorem full_sinks_agree {payload : Payload μ} {memory : μ} {same : μ → μ → Prop}
    (hmemory : same memory memory) (hminds : payload.MindsFailureOnly same) (capacity : Option ℕ)
    (whenFull : WhenFull) (signals : ℕ) :
    let written := fresh payload memory ({ capacity, whenFull } : Writer)
    let fitting := Message.fitting? capacity (written.postedIn signals)
    let recorded := fresh payload memory
      ({ refuses := fun post => fitting.any (· < post) } : Recorder)
    let sent := fresh payload memory ({ receivesFor := fitting } : Mailbox)
    (∀ n < signals,
      ((written.afterRuns n).run.outcome = .ok () ↔ (recorded.afterRuns n).run.outcome = .ok ()) ∧
      ((written.afterRuns n).run.outcome = .ok () ↔ (sent.afterRuns n).run.outcome = .ok ())) ∧
    ∀ n ≤ signals,
      ((recorded.afterRuns n).state = (written.afterRuns n).state ∧
        (sent.afterRuns n).state = (written.afterRuns n).state) ∧
      ((recorded.afterRuns n).completedRuns = (written.afterRuns n).completedRuns ∧
        (sent.afterRuns n).completedRuns = (written.afterRuns n).completedRuns) ∧
      ((recorded.afterRuns n).relay.pending = (written.afterRuns n).relay.pending ∧
        (sent.afterRuns n).relay.pending = (written.afterRuns n).relay.pending) ∧
      (Lines.split Message.newline (written.afterRuns n).relay.sink.written).complete.mapM
          Message.ofLine? = some (recorded.afterRuns n).relay.sink.delivered ∧
        (sent.afterRuns n).relay.sink.delivered =
          (recorded.afterRuns n).relay.sink.delivered := by
  intro written fitting recorded sent
  have hfits := Writer.stopsAfter capacity whenFull (written.postedIn signals)
  have hrecorded : Sink.Agree written.relay.sink recorded.relay.sink (written.postedIn signals) :=
    Sink.agree_of_stopsAfter hfits (Recorder.stopsAfter fitting _)
  have hsent : Sink.Agree written.relay.sink sent.relay.sink (written.postedIn signals) :=
    Sink.agree_of_stopsAfter hfits (Mailbox.stopsAfter fitting _)
  have hone : written.Alike same recorded := ⟨rfl, hmemory, rfl, rfl, rfl⟩
  have htwo : written.Alike same sent := ⟨rfl, hmemory, rfl, rfl, rfl⟩
  refine ⟨fun n hn => ⟨hone.outcome_afterRuns hminds hn hrecorded,
    htwo.outcome_afterRuns hminds hn hsent⟩, fun n hn => ?_⟩
  obtain ⟨halike, hdelivered⟩ := hone.delivered_eq hminds hn hrecorded
  obtain ⟨hother, hreceived⟩ := htwo.delivered_eq hminds hn hsent
  refine ⟨⟨halike.state, hother.state⟩, ⟨halike.completedRuns, hother.completedRuns⟩,
    ⟨halike.pending, hother.pending⟩, ?_, ?_⟩
  · rw [sink_afterRuns, sink_afterRuns]
    exact (Writer.read_afterPosts capacity whenFull _).trans
      (congrArg some (hdelivered.symm.trans (Recorder.delivered_afterPosts _ _).symm))
  · rw [sink_afterRuns, sink_afterRuns]
    exact (Mailbox.delivered_afterPosts _ _).trans
      ((hreceived.trans hdelivered.symm).trans (Recorder.delivered_afterPosts _ _).symm)

end Session

namespace Script

theorem alike_activity {μ : Type} (memory : μ) (steps : List Step) :
    (activity memory steps).Alike Eq (activity memory steps) := by
  induction steps with
  | nil => exact .finish Iff.rfl rfl
  | cons step rest ih =>
    cases step with
    | put text => exact .put text ih fun _ _ => .finish (by simp) rfl
    | tryPut text => exact .put text ih fun _ _ => ih
    | fail reason => exact .finish Iff.rfl rfl

/-- A scripted benchmark does not mind why a write failed. -/
theorem mindsFailureOnly (name : Text) (runs : List (List Step)) :
    (payload name runs).MindsFailureOnly Eq := by
  rintro memory _ rfl
  exact alike_activity _ _

end Script

/-- A writer with room for one line, the end of the run and another line without its newline, and a
benchmark that goes on where its output is not taken. -/
theorem Session.full_sinks_agree_torn_newline :
    let payload := Script.payload ['s'] [[.tryPut ['a', '\n']]]
    let written := fresh payload 0 ({ capacity := some 73 } : Writer)
    let fitting := Message.fitting? (some 73) (written.postedIn 3)
    let sent := fresh payload 0 ({ receivesFor := fitting } : Mailbox)
    payload.MindsFailureOnly Eq ∧ fitting = some 2 ∧
      (written.afterRuns 3).relay.sink.written.length = 73 ∧
      (written.afterRuns 3).completedRuns = 1 ∧ (sent.afterRuns 3).completedRuns = 1 ∧
      (Lines.split Message.newline (written.afterRuns 3).relay.sink.written).complete.mapM
        Message.ofLine? = some [.stdout ['a'], .done] ∧
      (sent.afterRuns 3).relay.sink.delivered = [.stdout ['a'], .done] := by
  intro payload written fitting sent
  have hminds : payload.MindsFailureOnly Eq := Script.mindsFailureOnly _ _
  have hfitting : fitting = some 2 := by decide +kernel
  have hagree := full_sinks_agree (show (0 : ℕ) = 0 from rfl) hminds (some 73) .refuse 3
  extract_lets recorded at hagree
  obtain ⟨-, ⟨-, hsent⟩, -, hread, hsame⟩ := hagree.2 3 (Nat.le_refl 3)
  have hlength : (written.afterRuns 3).relay.sink.written.length = 73 := by decide +kernel
  have hcount : (written.afterRuns 3).completedRuns = 1 := by decide +kernel
  have hdelivered : (recorded.afterRuns 3).relay.sink.delivered = [.stdout ['a'], .done] := by
    decide +kernel
  exact ⟨hminds, hfitting, hlength, hcount, hsent.trans hcount,
    hread.trans (congrArg some hdelivered), hsame.trans hdelivered⟩

end BenchRelay
