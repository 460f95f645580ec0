import BenchRelay.Payload.Child
import BenchRelay.Proofs.LossyLines
import BenchRelay.Proofs.Posting

/-!
# What a run of a child passes on

A run that relays the output of a child writes the lossy reading of that output, and where the reads
cut it makes no difference, not even when a line is not delivered: the run ends at that line, and
all that was left of the text is gone. The decoder is settled between any two reads, which is why
nothing but its carry goes from one to the next.
-/

namespace BenchRelay

/-- Reads that bring given bytes to the end, no more at a time than a size allows. -/
inductive Delivers (size : ℕ) : Bytes → List Delivery → Prop
  | finished : Delivers size [] []
  | interrupted {b : Bytes} {reads : List Delivery} (later : Delivers size b reads) :
      Delivers size b (.interrupted :: reads)
  | bytes {piece b : Bytes} {reads : List Delivery} (nonempty : piece ≠ [])
      (fits : piece.length ≤ size) (later : Delivers size b reads) :
      Delivers size (piece ++ b) (.bytes piece :: reads)

namespace Decoder

/-- What is fed now reads as far as it can be read, and the carry reads with what comes later. -/
theorem lossy_feed (decoder : Decoder) (piece later : Bytes) :
    Utf8.lossy (decoder.carry ++ (piece ++ later)) =
      (decoder.feed piece).1 ++ Utf8.lossy ((decoder.feed piece).2.carry ++ later) := by
  rw [← List.append_assoc, ← resolve_lossy, resolve_append, List.append_assoc, resolve_lossy]
  rfl

end Decoder

namespace Child

variable {μ σ : Type} [Sink σ]

theorem run_putOr (giveUp : RunError → Activity μ) (text : Text) (next : Activity μ)
    (relay : Relay σ) :
    (putOr giveUp text next).run relay = match relay.write text with
      | (.ok (), relay) => next.run relay
      | (.error error, relay) => (giveUp (.sink error)).run relay := by
  have hput : Outlet.put relay text = relay.write text := rfl
  simp only [putOr, Activity.run, hput]
  rcases relay.write text with ⟨_ | _, relay⟩ <;> rfl

/-- Passing on output as it is read is writing its lossy reading at once. -/
theorem run_pump {size : ℕ} {b : Bytes} {reads : List Delivery} (h : Delivers size b reads)
    {decoder : Decoder} (hdecoder : decoder.Settled) (giveUp : RunError → Activity μ)
    (next : Activity μ) (relay : Relay σ) :
    (pump giveUp next decoder reads).run relay =
      match relay.write (Utf8.lossy (decoder.carry ++ b)) with
      | (.ok (), relay) => next.run relay
      | (.error error, relay) => (giveUp (.sink error)).run relay := by
  -- A read leaves nothing but the carry to the next one, so any settled decoder will do.
  induction h generalizing decoder relay with
  | finished =>
    rw [pump, List.append_nil]
    split
    · exact run_putOr giveUp _ next relay
    · next hcarry =>
      have hempty : decoder.carry = [] := by simpa [Decoder.holdsBytes] using hcarry
      simp [hempty]
  | interrupted _ ih =>
    rw [pump]
    exact ih hdecoder relay
  | @bytes piece b reads _ _ _ ih =>
    have hsettled := Decoder.settled_feed decoder piece
    rw [pump, Decoder.lossy_feed, Relay.write_append]
    dsimp only
    split
    · next hempty =>
      rw [List.isEmpty_iff] at hempty
      rw [hempty, Relay.write_nil]
      exact ih hsettled relay
    · rw [run_putOr]
      rcases relay.write (decoder.feed piece).1 with ⟨_ | _, relay⟩
      · rfl
      · exact ih hsettled relay

/-- A run of a started child writes the lossy reading of its output; then it judges the child, or it
gives up at the line that was not delivered. -/
theorem run_activity {size : ℕ} {b : Bytes} {reads : List Delivery} (h : Delivers size b reads)
    (command : Text) (memory : μ) (status : ExitStatus) (relay : Relay σ) :
    (activity command memory ⟨reads, status⟩).run relay = match relay.write (Utf8.lossy b) with
      | (.ok (), relay) =>
        { outcome := if status.isSuccess then .ok () else .error (.child (.exit command status))
          memory
          outlet := relay
          log := [.childExited command status] }
      | (.error error, relay) =>
        { outcome := .error (.sink error)
          memory
          outlet := relay
          log := [.forwardingFailed command (.sink error)] } := by
  rw [activity, run_pump h Decoder.settled_fresh]
  rfl

theorem main_of_started {command : Text} {launch : μ → Launch × μ} {memory later : μ}
    {child : Child} (h : launch memory = (.started child, later)) :
    (payload command launch).main memory = activity command later child := by
  simp only [payload, h]

/-- How the output of a child is cut into reads makes no difference to its run, over any sink. The
run delivers the lines of the output, each read by itself and the first one behind the pending text,
up to the first that is not delivered; if there is such a line no text is left pending and the
failure is that of the sink, and else the child is judged by how it ended. -/
theorem payload_run_of_delivers {size size' : ℕ} {output : Bytes} {reads reads' : List Delivery}
    (hreads : Delivers size output reads) (hreads' : Delivers size' output reads')
    (command : Text) (status : ExitStatus) {launch : μ → Launch × μ} {memory memory' later : μ}
    (hlaunch : launch memory = (.started ⟨reads, status⟩, later))
    (hlaunch' : launch memory' = (.started ⟨reads', status⟩, later)) :
    (∀ {σ : Type} [Sink σ] (relay : Relay σ),
      ((payload command launch).main memory).run relay =
        ((payload command launch).main memory').run relay) ∧
    ∀ (sink : Recorder) (pending : Text),
      let lines := (Utf8.lossyLines output).after pending
      let execution := ((payload command launch).main memory).run (Relay.mk sink pending)
      (sink.AcceptsNext lines.complete.length →
        execution.outcome =
          (if status.isSuccess then .ok () else .error (.child (.exit command status))) ∧
        execution.outlet.sink.delivered = sink.delivered ++ lines.complete.map .stdout ∧
        execution.outlet.pending = lines.rest) ∧
      ∀ j < lines.complete.length, sink.AcceptsNext j → sink.refuses (sink.posts + j + 1) →
        execution.outcome = .error (.sink .disconnected) ∧
        execution.outlet.sink.delivered =
          sink.delivered ++ (lines.complete.take j).map .stdout ∧
        execution.outlet.pending = [] := by
  rw [main_of_started hlaunch, main_of_started hlaunch']
  refine ⟨fun relay => ?_, fun sink pending => ?_⟩
  · rw [run_activity hreads, run_activity hreads']
  · intro lines execution
    have hlines : (Lines.split '\n' (Utf8.lossy output)).after pending = lines := by
      rw [Utf8.split_lossy]
    have hrun := run_activity hreads command later status (Relay.mk sink pending)
    refine ⟨fun haccepts => ?_, fun j hj haccepts hrefuses => ?_⟩
    · rw [Relay.write_of_acceptsNext hlines haccepts] at hrun
      rw [show execution = _ from hrun]
      exact ⟨rfl, rfl, rfl⟩
    · rw [Relay.write_of_refuses hlines hj haccepts hrefuses] at hrun
      rw [show execution = _ from hrun]
      exact ⟨rfl, rfl, rfl⟩

/-- The second of two lines is refused, and a read cuts a character of the first. -/
theorem payload_run_of_delivers_cut_character :
    let output : Bytes := [0xCE, 0xBC, 0x0A, 0xFF, 0x0A, 0x61]
    let reads : List Delivery :=
      [.bytes [0xCE], .interrupted, .bytes [0xBC, 0x0A, 0xFF, 0x0A, 0x61]]
    let launch (reads : List Delivery) : Launch × List Delivery := (.started ⟨reads, .code 3⟩, [])
    let sink : Recorder := { refuses := fun n => n = 2 }
    let execution := ((payload ['x'] launch).main reads).run (Relay.mk sink ['p'])
    Delivers 5 output reads ∧ Delivers 6 output [.bytes output] ∧
      execution = ((payload ['x'] launch).main [.bytes output]).run (Relay.mk sink ['p']) ∧
      execution.outcome = .error (.sink .disconnected) ∧
      execution.outlet.sink.delivered = [.stdout ['p', 'μ']] ∧ execution.outlet.pending = [] := by
  intro output reads launch sink execution
  have hcut : Delivers 5 output reads :=
    @Delivers.bytes 5 [0xCE] _ _ (by simp) (by simp) <| .interrupted <|
      @Delivers.bytes 5 [0xBC, 0x0A, 0xFF, 0x0A, 0x61] [] _ (by simp) (by simp) .finished
  have hwhole : Delivers 6 output [.bytes output] :=
    @Delivers.bytes 6 output [] _ (by simp [output]) (by simp [output]) .finished
  obtain ⟨hsame, hrun⟩ := payload_run_of_delivers hcut hwhole ['x'] (.code 3)
    (show launch reads = _ from rfl) (show launch [.bytes output] = _ from rfl)
  have hlines : (Utf8.lossyLines output).after ['p'] =
      ⟨[['p', 'μ'], [Utf8.replacement]], ['a']⟩ := by decide +kernel
  have haccepts : sink.AcceptsNext 1 := by simp [Recorder.AcceptsNext, sink]
  obtain ⟨houtcome, hdelivered, hpending⟩ := (hrun sink ['p']).2 1 (by simp [hlines]) haccepts rfl
  rw [hlines] at hdelivered
  exact ⟨hcut, hwhole, hsame _, houtcome, hdelivered, hpending⟩

end Child

end BenchRelay
