import BenchRelay.Sink.Mailbox
import BenchRelay.Proofs.MessageLines
import BenchRelay.Proofs.SessionRuns

/-!
# What arrives at a sink

Of the messages posted to a sink some arrive, and by what becomes of a post one can tell whether its
message did. In a recorder and a mailbox a message arrives if its post succeeds. A writer that runs
full may tear a line, and then it takes no more bytes, so behind its complete lines there is at most
one torn one; a message arrives there also if only the flush behind its line fails.
-/

namespace BenchRelay

namespace Sink

variable {σ : Type} [Sink σ]

/-- A view of the messages that arrived at a sink: a post adds its message if its outcome is of a
given kind and changes nothing otherwise. -/
structure Keeps (holds : σ → List Message → Prop) (arrives : Except SinkError Unit → Prop) :
    Prop where
  arrived : ∀ {sink messages message}, holds sink messages → arrives (post sink message).1 →
    holds (post sink message).2 (messages ++ [message])
  lost : ∀ {sink messages message}, holds sink messages → ¬ arrives (post sink message).1 →
    holds (post sink message).2 messages

variable {holds : σ → List Message → Prop} {arrives : Except SinkError Unit → Prop}

/-- Of posted lines only lines arrive. -/
theorem Keeps.exists_lines (h : Keeps holds arrives) {sink : σ} {messages : List Message}
    (hsink : holds sink messages) (lines : List Text) :
    ∃ kept : List Text,
      holds (afterPosts sink (lines.map .stdout)) (messages ++ kept.map .stdout) := by
  induction lines generalizing sink messages with
  | nil => exact ⟨[], by simpa using hsink⟩
  | cons line lines ih =>
    rw [List.map_cons, afterPosts_cons]
    by_cases harrives : arrives (post sink (.stdout line)).1
    · obtain ⟨kept, hkept⟩ := ih (h.arrived hsink harrives)
      exact ⟨line :: kept, by simpa using hkept⟩
    · exact ih (h.lost hsink harrives)

/-- A sink is closed if a reason not to deliver a message outlasts every post. -/
theorem closed_of_invariant (closed : σ → Prop)
    (hpost : ∀ {sink}, closed sink → ∀ message,
      (post sink message).1 ≠ .ok () ∧ closed (post sink message).2)
    {sink : σ} (h : closed sink) : Closed sink := by
  intro messages
  induction messages generalizing sink with
  | nil => exact fun message => (hpost h message).1
  | cons first messages ih => exact ih (hpost h first).2

end Sink

namespace Recorder

/-- A recorder has what it delivered. -/
theorem keeps (refuses : ℕ → Bool) :
    Sink.Keeps (fun recorder : Recorder => fun messages =>
      recorder.refuses = refuses ∧ recorder.delivered = messages) (· = .ok ()) where
  arrived := by
    rintro recorder _ message ⟨rfl, rfl⟩ harrives
    simp only [Sink.post, Recorder.post] at harrives ⊢
    split at harrives
    · simp at harrives
    · next h => simp [h]
  lost := by
    rintro recorder _ message ⟨rfl, rfl⟩ hlost
    simp only [Sink.post, Recorder.post] at hlost ⊢
    split at hlost
    · next h => simp [h]
    · simp at hlost

/-- A recorder that refuses all later posts delivers nothing more. -/
theorem closed_of_refuses {recorder : Recorder} (h : ∀ n > recorder.posts, recorder.refuses n) :
    Sink.Closed recorder := by
  refine Sink.closed_of_invariant (fun recorder : Recorder =>
    ∀ n > recorder.posts, recorder.refuses n) (fun {recorder} h message => ?_) h
  have hpost : Sink.post recorder message =
      (.error .disconnected, { recorder with posts := recorder.posts + 1 }) := by
    simp [Sink.post, Recorder.post, h (recorder.posts + 1) (by omega)]
  rw [hpost]
  refine ⟨by simp, fun n hn => h n ?_⟩
  dsimp only at hn
  omega

end Recorder

namespace Mailbox

/-- A mailbox has what it delivered. -/
theorem keeps (receivesFor : Option ℕ) :
    Sink.Keeps (fun mailbox : Mailbox => fun messages =>
      mailbox.receivesFor = receivesFor ∧ mailbox.delivered = messages) (· = .ok ()) where
  arrived := by
    rintro mailbox _ message ⟨rfl, rfl⟩ harrives
    simp only [Sink.post, Mailbox.post] at harrives ⊢
    split at harrives
    · next h => simp [h]
    · simp at harrives
  lost := by
    rintro mailbox _ message ⟨rfl, rfl⟩ hlost
    simp only [Sink.post, Mailbox.post] at hlost ⊢
    split at hlost
    · simp at hlost
    · next h => simp [h]

/-- Once the receiver has gone away it does not come back. -/
theorem closed_of_not_isOpen {mailbox : Mailbox} (h : mailbox.isOpen = false) :
    Sink.Closed mailbox := by
  refine Sink.closed_of_invariant (fun mailbox : Mailbox => mailbox.isOpen = false)
    (fun {mailbox} h message => ?_) h
  have hpost : Sink.post mailbox message =
      (.error .disconnected, { mailbox with posts := mailbox.posts + 1 }) := by
    simp [Sink.post, Mailbox.post, h]
  rw [hpost]
  refine ⟨by simp, ?_⟩
  unfold isOpen at h ⊢
  cases hlimit : mailbox.receivesFor with
  | none => simp [hlimit] at h
  | some limit =>
    simp only [hlimit, decide_eq_false_iff_not] at h ⊢
    omega

end Mailbox

namespace Writer

/-- A writer that takes no more bytes. -/
def Full (writer : Writer) : Prop :=
  ∃ capacity, writer.capacity = some capacity ∧ capacity ≤ writer.written.length

/-- A writer with the whole lines of some messages and at most one torn line behind them, which is
its last. -/
def HasLines (writer : Writer) (messages : List Message) : Prop :=
  ∃ torn, writer.written = messages.flatMap Message.line ++ torn ∧ Message.newline ∉ torn ∧
    (torn = [] ∨ writer.Full)

/-- What becomes of a post whose line is written whole: it succeeds or the flush behind it fails. -/
def WritesLine (outcome : Except SinkError Unit) : Prop :=
  outcome = .ok () ∨ outcome = .error (.io "flush failed")

instance : DecidablePred WritesLine := fun _ => inferInstanceAs (Decidable (_ ∨ _))

theorem room_of_full {writer : Writer} (h : writer.Full) (wanted : ℕ) : writer.room wanted = 0 := by
  obtain ⟨capacity, hcapacity, hfull⟩ := h
  rw [written, List.length_reverse] at hfull
  simp only [room, hcapacity]
  omega

/-- Bytes are written whole, or as many as fit and then the writer is full. -/
theorem write_cases (writer : Writer) (b : Bytes) :
    ∃ later, later.written = writer.written ++ b.take (writer.room b.length) ∧
      (writer.write b = (.ok (), later) ∧ b.length ≤ writer.room b.length ∨
        writer.write b = (.error writer.whenFull.reason, later) ∧ writer.room b.length < b.length ∧
          later.Full) := by
  refine ⟨(writer.write b).2, written_write writer b, ?_⟩
  by_cases hfits : b.length ≤ writer.room b.length
  · refine .inl ⟨?_, hfits⟩
    simp only [write, if_pos hfits]
  · refine .inr ⟨?_, by omega, ?_⟩
    · simp only [write, if_neg hfits]
    · cases hcapacity : writer.capacity with
      | none => simp [room, hcapacity] at hfits
      | some capacity =>
        refine ⟨capacity, ?_, ?_⟩
        · simp only [write, if_neg hfits, hcapacity]
        · rw [written_write, List.length_append, List.length_take]
          simp only [room, hcapacity, written, List.length_reverse] at hfits ⊢
          omega

theorem not_writesLine_of_whenFull (full : WhenFull) :
    ¬ WritesLine (.error (.io full.reason)) := by
  have hreason : full.reason ≠ "flush failed".toList := by cases full <;> decide
  rintro (h | h)
  · simp at h
  · exact hreason (SinkError.io.inj (Except.error.inj h))

/-- A post writes the whole line of its message, for which a writer must have room, or a piece of
the line without its newline and then the writer is full. -/
theorem post_cases (writer : Writer) (message : Message) :
    ¬ writer.Full ∧ WritesLine (Sink.post writer message).1 ∧
        (Sink.post writer message).2.written = writer.written ++ message.line ∨
      (Sink.post writer message).2.Full ∧ ¬ WritesLine (Sink.post writer message).1 ∧
        ∃ count, (Sink.post writer message).2.written =
          writer.written ++ message.body.take count := by
  simp only [Sink.post, post]
  obtain ⟨texted, htexted, ⟨hwrite, hroom⟩ | ⟨hwrite, -, hfull⟩⟩ :=
    writer.write_cases message.body
  · have hnotFull : ¬ writer.Full := by
      intro hfull
      have hlength := List.length_pos_iff.mpr (Message.body_ne_nil message)
      rw [room_of_full hfull] at hroom
      omega
    rw [List.take_of_length_le hroom] at htexted
    rw [show writer.write message.toJson.utf8 = _ from hwrite]
    obtain ⟨ended, hended, ⟨hwrite, hroom⟩ | ⟨hwrite, hroom, hfull⟩⟩ :=
      texted.write_cases [Message.newline]
    · rw [List.take_of_length_le hroom, htexted, List.append_assoc] at hended
      refine .inl ⟨hnotFull, ?_⟩
      by_cases hfails : ended.failsFlush (ended.flushes + 1)
      · simp only [hwrite, flush, hfails, if_true]
        exact ⟨.inr rfl, hended⟩
      · simp only [hwrite, flush, hfails, if_false, Bool.false_eq_true]
        exact ⟨.inl rfl, hended⟩
    · have hnone : texted.room [Message.newline].length = 0 := by simpa using hroom
      rw [hnone, List.take_zero, List.append_nil, htexted] at hended
      simp only [hwrite]
      exact .inr ⟨hfull, not_writesLine_of_whenFull _, message.body.length,
        by rw [List.take_length, hended]⟩
  · have hlost : ¬ WritesLine (.error (.encode writer.whenFull.reason)) := by simp [WritesLine]
    rw [show writer.write message.toJson.utf8 = _ from hwrite]
    exact .inr ⟨hfull, hlost, _, htexted⟩

/-- A post adds a whole line, or it leaves at most one torn line and the writer full. -/
theorem post_of_hasLines {writer : Writer} {messages : List Message} (h : writer.HasLines messages)
    (message : Message) :
    WritesLine (Sink.post writer message).1 ∧
        (Sink.post writer message).2.HasLines (messages ++ [message]) ∨
      ¬ WritesLine (Sink.post writer message).1 ∧
        (Sink.post writer message).2.HasLines messages := by
  obtain ⟨torn, hwritten, hnewline, hlast⟩ := h
  obtain ⟨hnotFull, hwrites, hline⟩ | ⟨hfull, hlost, count, hpiece⟩ := writer.post_cases message
  · obtain rfl : torn = [] := hlast.resolve_right hnotFull
    refine .inl ⟨hwrites, [], ?_, List.not_mem_nil, .inl rfl⟩
    rw [hline, hwritten, List.flatMap_append, List.flatMap_singleton, List.append_nil,
      List.append_nil]
  · refine .inr ⟨hlost, torn ++ message.body.take count, ?_, ?_, .inr hfull⟩
    · rw [hpiece, hwritten, List.append_assoc]
    · simp only [List.mem_append, not_or]
      exact ⟨hnewline, fun hmem => Message.newline_not_mem_body message (List.mem_of_mem_take hmem)⟩

/-- A writer has the lines that were written whole. -/
theorem keeps : Sink.Keeps HasLines WritesLine where
  arrived h harrives := by
    obtain ⟨-, hlines⟩ | ⟨hlost, -⟩ := post_of_hasLines h _
    · exact hlines
    · exact absurd harrives hlost
  lost h hlost := by
    obtain ⟨harrives, -⟩ | ⟨-, hlines⟩ := post_of_hasLines h _
    · exact absurd harrives hlost
    · exact hlines

/-- The complete lines of a writer are the written messages. -/
theorem complete_of_hasLines {writer : Writer} {messages : List Message}
    (h : writer.HasLines messages) :
    (Lines.split Message.newline writer.written).complete = messages.map Message.body := by
  obtain ⟨torn, hwritten, hnewline, -⟩ := h
  rw [hwritten, Message.split_lines messages hnewline]

end Writer

end BenchRelay
