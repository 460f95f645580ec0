import BenchRelay.Relay
import BenchRelay.Sink.Recorder
import BenchRelay.Sink.Writer
import BenchRelay.Proofs.LineCutting

/-!
# Posting many messages

Messages posted one after another go as far as the first that is not delivered. What that leaves in
a recorder follows from the numbers of the refused posts alone, and an unlimited writer takes every
line. A relay writes a text in two pieces as it writes it in one, also when a line is not delivered,
as no pending text outlives that.
-/

namespace BenchRelay

namespace Sink

variable {σ : Type} [Sink σ]

/-- Messages in two parts: the second part is posted only where all of the first is delivered. -/
theorem postAll_append (sink : σ) (first second : List Message) :
    postAll sink (first ++ second) = match postAll sink first with
      | (.ok (), sink) => postAll sink second
      | (.error error, sink) => (.error error, sink) := by
  induction first generalizing sink with
  | nil => rfl
  | cons message first ih =>
    simp only [List.cons_append, postAll]
    rcases post sink message with ⟨_ | _, sink⟩
    · rfl
    · exact ih sink

/-- A sink that delivers all that is posted to it from now on. -/
def NeverFails (sink : σ) : Prop := ∀ messages, (postAll sink messages).1 = .ok ()

theorem NeverFails.postAll {sink : σ} (h : NeverFails sink) (messages : List Message) :
    ∃ later, Sink.postAll sink messages = (.ok (), later) ∧ NeverFails later := by
  have hfirst := h messages
  cases hposted : Sink.postAll sink messages with
  | mk outcome later =>
    rw [hposted] at hfirst
    obtain rfl : outcome = .ok () := hfirst
    refine ⟨later, rfl, fun more => ?_⟩
    have hboth := h (messages ++ more)
    rwa [postAll_append, hposted] at hboth

theorem postAll_singleton (sink : σ) (message : Message) :
    postAll sink [message] = post sink message := by
  rw [postAll]
  rcases post sink message with ⟨_ | _, _⟩ <;> rfl

end Sink

namespace Recorder

/-- A recorder after posts that it did not refuse. -/
def accept (recorder : Recorder) (messages : List Message) : Recorder :=
  { recorder with
    posts := recorder.posts + messages.length
    delivered := recorder.delivered ++ messages }

/-- Whether a recorder refuses none of its next posts. -/
def AcceptsNext (recorder : Recorder) (count : ℕ) : Prop :=
  ∀ i < count, recorder.refuses (recorder.posts + i + 1) = false

theorem post_of_accepts (recorder : Recorder) (message : Message)
    (h : recorder.refuses (recorder.posts + 1) = false) :
    Sink.post recorder message = (.ok (), recorder.accept [message]) := by
  simp [Sink.post, Recorder.post, h, accept]

theorem postAll_of_acceptsNext (recorder : Recorder) (messages : List Message)
    (h : recorder.AcceptsNext messages.length) :
    Sink.postAll recorder messages = (.ok (), recorder.accept messages) := by
  induction messages generalizing recorder with
  | nil => simp [Sink.postAll, accept]
  | cons message messages ih =>
    have hfirst : recorder.refuses (recorder.posts + 1) = false := by simpa using h 0 (by simp)
    have hlater : (recorder.accept [message]).AcceptsNext messages.length := by
      intro i hi
      have hnext := h (i + 1) (by simpa using hi)
      rwa [show recorder.posts + (i + 1) + 1 = recorder.posts + 1 + i + 1 by omega] at hnext
    rw [Sink.postAll, post_of_accepts recorder message hfirst]
    simp only
    rw [ih _ hlater]
    simp [accept, Nat.add_right_comm, Nat.add_assoc]

theorem neverFails_of_refuses_none {recorder : Recorder} (h : ∀ n, recorder.refuses n = false) :
    Sink.NeverFails recorder := fun _ => by
  rw [postAll_of_acceptsNext _ _ fun _ _ => h _]

/-- At the first refused post the messages before it are delivered and nothing is from there on. -/
theorem postAll_of_refuses (recorder : Recorder) (messages : List Message) {j : ℕ}
    (hj : j < messages.length) (haccepts : recorder.AcceptsNext j)
    (hrefuses : recorder.refuses (recorder.posts + j + 1)) :
    Sink.postAll recorder messages = (.error .disconnected,
      { recorder with
        posts := recorder.posts + j + 1
        delivered := recorder.delivered ++ messages.take j }) := by
  have hsplit : messages = messages.take j ++ messages[j] :: messages.drop (j + 1) := by simp
  have hlength : (messages.take j).length = j := by simp; omega
  have hfirst := postAll_of_acceptsNext recorder (messages.take j) (hlength.symm ▸ haccepts)
  have hpost : Sink.post (recorder.accept (messages.take j)) messages[j] = (.error .disconnected,
      { recorder with
        posts := recorder.posts + j + 1
        delivered := recorder.delivered ++ messages.take j }) := by
    simp only [Sink.post, Recorder.post, accept, hlength, hrefuses, if_true]
  conv_lhs => rw [hsplit, Sink.postAll_append, hfirst]
  simp only [Sink.postAll, hpost]

end Recorder

namespace Writer

/-- A writer that never runs full and whose flushes never fail. -/
structure Unlimited (writer : Writer) : Prop where
  capacity : writer.capacity = none
  flushes : ∀ n, writer.failsFlush n = false

theorem unlimited_fresh : Unlimited {} := ⟨rfl, fun _ => rfl⟩

theorem write_of_unlimited {writer : Writer} (h : writer.Unlimited) (b : Bytes) :
    ∃ later, writer.write b = (.ok (), later) ∧ later.Unlimited ∧
      later.written = writer.written ++ b := by
  have hroom : writer.room b.length = b.length := by simp only [room, h.capacity]
  have hwritten := written_write writer b
  rw [hroom, List.take_length] at hwritten
  have hwrite : writer.write b = (.ok (), (writer.write b).2) := by simp [write, hroom]
  have hlater : (writer.write b).2.Unlimited := by
    simp only [write, hroom, Nat.le_refl, if_true]
    exact ⟨h.capacity, h.flushes⟩
  exact ⟨_, hwrite, hlater, hwritten⟩

/-- An unlimited writer takes the whole line of a message. -/
theorem post_of_unlimited {writer : Writer} (h : writer.Unlimited) (message : Message) :
    ∃ later, Sink.post writer message = (.ok (), later) ∧ later.Unlimited ∧
      later.written = writer.written ++ message.line := by
  obtain ⟨texted, htext, hunlimited, htexted⟩ := write_of_unlimited h message.toJson.utf8
  obtain ⟨ended, hend, hended, hwritten⟩ := write_of_unlimited hunlimited [Message.newline]
  refine ⟨{ ended with flushes := ended.flushes + 1 }, ?_, ⟨hended.capacity, hended.flushes⟩, ?_⟩
  · simp only [Sink.post, post, htext, hend, flush, hended.flushes, Bool.false_eq_true, if_false]
  · change ended.written = _
    rw [hwritten, htexted, List.append_assoc]
    rfl

theorem postAll_of_unlimited {writer : Writer} (h : writer.Unlimited) (messages : List Message) :
    ∃ later, Sink.postAll writer messages = (.ok (), later) ∧ later.Unlimited ∧
      later.written = writer.written ++ messages.flatMap Message.line := by
  induction messages generalizing writer with
  | nil => exact ⟨writer, rfl, h, by simp⟩
  | cons message messages ih =>
    obtain ⟨posted, hpost, hposted, hwritten⟩ := post_of_unlimited h message
    obtain ⟨later, hlater, hunlimited, hlines⟩ := ih hposted
    refine ⟨later, ?_, hunlimited, ?_⟩
    · rw [Sink.postAll, hpost]
      exact hlater
    · rw [hlines, hwritten, List.flatMap_cons, List.append_assoc]

end Writer

namespace Relay

variable {σ : Type} [Sink σ]

/-- Writing no text changes nothing. -/
@[simp] theorem write_nil (relay : Relay σ) : relay.write [] = (.ok (), relay) := by
  simp [write, Lines.after, Sink.postAll]

/-- A text in two parts: the second part is written only where every line of the first is
delivered. -/
theorem write_append (relay : Relay σ) (first second : Text) :
    relay.write (first ++ second) = match relay.write first with
      | (.ok (), relay) => relay.write second
      | (.error error, relay) => (.error error, relay) := by
  simp only [write, Lines.after_split_append, List.map_append, Sink.postAll_append]
  generalize (Lines.split '\n' first).after relay.pending = lines
  rcases Sink.postAll relay.sink (lines.complete.map .stdout) with ⟨_ | _, sink⟩ <;> rfl

/-- Text without a newline is pending behind what was. -/
theorem write_of_newline_not_mem (relay : Relay σ) {text : Text} (h : '\n' ∉ text) :
    relay.write text = (.ok (), ⟨relay.sink, relay.pending ++ text⟩) := by
  simp only [write, Lines.split_of_not_mem h, Lines.after, List.map_nil, Sink.postAll]

/-- The first line of a text is posted behind what was pending, and what stands behind it is written
where that line is delivered. -/
theorem write_line (relay : Relay σ) {line : Text} (h : '\n' ∉ line) (rest : Text) :
    relay.write (line ++ '\n' :: rest) =
      match Sink.post relay.sink (.stdout (relay.pending ++ line)) with
      | (.ok (), sink) => write { sink } rest
      | (.error error, sink) => (.error error, { sink }) := by
  simp only [write, Lines.split_line_append h, Lines.after_nil]
  simp only [Lines.after, List.map_cons, Sink.postAll]
  rcases Sink.post relay.sink (.stdout (relay.pending ++ line)) with ⟨_ | _, sink⟩ <;> rfl

/-- No write leaves a newline pending. -/
theorem newline_not_mem_pending_write {relay : Relay σ} (h : '\n' ∉ relay.pending) (text : Text) :
    '\n' ∉ (relay.write text).2.pending := by
  have hlines := Lines.clean_after h (Lines.clean_split '\n' text)
  simp only [write]
  split
  · exact hlines.rest
  · exact List.not_mem_nil

/-- A message posted past the pending text leaves it alone. -/
theorem post_eq {relay : Relay σ} {message : Message} {outcome : Except SinkError Unit} {sink : σ}
    (h : Sink.post relay.sink message = (outcome, sink)) :
    relay.post message = (outcome, ⟨sink, relay.pending⟩) := by
  simp only [post, h]

/-- A sink that never fails takes every line of a text. -/
theorem write_of_neverFails {relay : Relay σ} (h : Sink.NeverFails relay.sink) (text : Text) :
    ∃ later, relay.write text = (.ok (), later) ∧ Sink.NeverFails later.sink := by
  obtain ⟨sink, hposted, hsink⟩ :=
    h.postAll (((Lines.split '\n' text).after relay.pending).complete.map .stdout)
  refine ⟨⟨sink, ((Lines.split '\n' text).after relay.pending).rest⟩, ?_, hsink⟩
  simp only [write, hposted]

/-- Where a recorder accepts every line of a text, all of them are delivered. -/
theorem write_of_acceptsNext {sink : Recorder} {pending text : Text} {lines : Lines Char}
    (hlines : (Lines.split '\n' text).after pending = lines)
    (h : sink.AcceptsNext lines.complete.length) :
    write ⟨sink, pending⟩ text =
      (.ok (), ⟨sink.accept (lines.complete.map .stdout), lines.rest⟩) := by
  have hposted := Recorder.postAll_of_acceptsNext sink (lines.complete.map .stdout)
    (by simpa using h)
  simp only [write, hlines, hposted]

/-- An unlimited writer takes every line of a text. -/
theorem write_of_unlimited {relay : Relay Writer} {text : Text} {lines : Lines Char}
    (hlines : (Lines.split '\n' text).after relay.pending = lines) (h : relay.sink.Unlimited) :
    ∃ later : Writer, relay.write text = (.ok (), ⟨later, lines.rest⟩) ∧ later.Unlimited ∧
      later.written = relay.sink.written ++ (lines.complete.map .stdout).flatMap Message.line := by
  obtain ⟨later, hposted, hlater⟩ := Writer.postAll_of_unlimited h (lines.complete.map .stdout)
  refine ⟨later, ?_, hlater⟩
  simp only [write, hlines, hposted]

/-- Where a recorder refuses a line, the lines before it are delivered and the rest is gone. -/
theorem write_of_refuses {sink : Recorder} {pending text : Text} {lines : Lines Char} {j : ℕ}
    (hlines : (Lines.split '\n' text).after pending = lines) (hj : j < lines.complete.length)
    (haccepts : sink.AcceptsNext j) (hrefuses : sink.refuses (sink.posts + j + 1)) :
    write ⟨sink, pending⟩ text = (.error .disconnected,
      ⟨{ sink with
          posts := sink.posts + j + 1
          delivered := sink.delivered ++ (lines.complete.take j).map .stdout }, []⟩) := by
  have hposted := Recorder.postAll_of_refuses sink (lines.complete.map .stdout)
    (by simpa using hj) haccepts hrefuses
  simp only [write, hlines, hposted, List.map_take]

end Relay

end BenchRelay
