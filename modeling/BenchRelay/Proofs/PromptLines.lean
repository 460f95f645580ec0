import BenchRelay.Proofs.ChildRun

/-!
# Lines are passed on as soon as they are read

Between any two reads of a child's output, all lines that were read to their end have been posted.
What is not yet a line lies in two places: the pending text of the relay, and behind it the carry of
the decoder, a sequence cut short that no newline can be part of. `Activity.Reaches` says which
points a run comes through.
-/

namespace BenchRelay

namespace Activity

variable {μ η : Type} [Outlet η]

/-- The points that a run comes through: what is still to be done, and the outlet there. -/
inductive Reaches : Activity μ → η → Activity μ → η → Prop
  | here (activity : Activity μ) (outlet : η) : Reaches activity outlet activity outlet
  | log {event : Event} {next later : Activity μ} {outlet there : η}
      (onward : Reaches next outlet later there) : Reaches (.log event next) outlet later there
  | put {text : Text} {next : Except SinkError Unit → Activity μ} {later : Activity μ}
      {outlet there : η}
      (onward : Reaches (next (Outlet.put outlet text).1) (Outlet.put outlet text).2 later there) :
      Reaches (.put text next) outlet later there

/-- From a point that it comes through a run ends as it does from its start. -/
theorem Reaches.run {activity later : Activity μ} {outlet there : η}
    (h : activity.Reaches outlet later there) :
    ∃ earlier, activity.run outlet =
      { later.run there with log := earlier ++ (later.run there).log } := by
  induction h with
  | here => exact ⟨[], rfl⟩
  | @log event _ _ _ _ _ ih =>
    obtain ⟨earlier, hrun⟩ := ih
    refine ⟨event :: earlier, ?_⟩
    rw [Activity.run, hrun]
    rfl
  | put _ ih =>
    obtain ⟨earlier, hrun⟩ := ih
    exact ⟨earlier, hrun⟩

end Activity

namespace Decoder

theorem newline_not_mem_lossy_carry {decoder : Decoder} (h : decoder.Settled) :
    '\n' ∉ Utf8.lossy decoder.carry := by
  rcases lossy_carry h with hcarry | hcarry
  · simp [hcarry]
  · rw [hcarry]
    decide

/-- No newline byte is held back: it would end the sequence that is cut short. -/
theorem newline_not_mem_carry {decoder : Decoder} (h : decoder.Settled) :
    Message.newline ∉ decoder.carry := by
  intro hmem
  obtain ⟨before, behind, hcarry⟩ := List.append_of_mem hmem
  apply newline_not_mem_lossy_carry h
  rw [hcarry, Utf8.lossy_append_newline]
  simp

end Decoder

namespace Relay

variable {σ : Type} [Sink σ]

/-- What a relay over some sink, and the decoder in front of it, have made of the bytes read so far
in a run that began with a pending text. -/
structure UpToDate (sink : σ) (pending : Text) (read : Bytes) (decoder : Decoder)
    (relay : Relay σ) : Prop where
  /-- The lines read to their end were posted, the first behind what was pending, and no others. -/
  posted : Sink.postAll sink (((Utf8.lossyLines read).after pending).complete.map .stdout) =
    (.ok (), relay.sink)
  /-- They are as many as the newlines that were read. -/
  counted : ((Utf8.lossyLines read).after pending).complete.length = read.count Message.newline
  /-- The pending text and the reading of the carry are what was read since the last newline, behind
  what was pending if there is none. -/
  unfinished : relay.pending ++ Utf8.lossy decoder.carry =
    (if Message.newline ∈ read then [] else pending) ++
      Utf8.lossy (Lines.split Message.newline read).rest
  /-- No newline byte is held back. -/
  noNewline : Message.newline ∉ decoder.carry

end Relay

namespace Child

variable {μ σ : Type} [Sink σ]

/-- Reading on comes to the point where everything that could be decoded is written. -/
theorem reaches_pump {size : ℕ} {b : Bytes} {reads : List Delivery} (h : Delivers size b reads)
    {decoder : Decoder} (hdecoder : decoder.Settled) {relay : Relay σ}
    (hsink : Sink.NeverFails relay.sink) :
    ∃ there, relay.write (Decoder.resolve (decoder.carry ++ b)).1 = (.ok (), there) ∧
      ∀ (giveUp : RunError → Activity μ) (next : Activity μ) (later : List Delivery),
        (pump giveUp next decoder (reads ++ later)).Reaches relay
          (pump giveUp next ⟨(Decoder.resolve (decoder.carry ++ b)).2⟩ later) there := by
  -- Each read leaves a settled decoder and a sink that does not fail to the reads behind it.
  induction h generalizing decoder relay with
  | finished =>
    rw [List.append_nil, show Decoder.resolve decoder.carry = _ from hdecoder]
    exact ⟨relay, Relay.write_nil relay, fun giveUp next later => .here _ _⟩
  | interrupted _ ih => exact ih hdecoder hsink
  | @bytes piece b reads _ _ _ ih =>
    have hwhole := Decoder.resolve_append (decoder.carry ++ piece) b
    rw [List.append_assoc] at hwhole
    obtain ⟨written, hwrite, hwritten⟩ := Relay.write_of_neverFails hsink (decoder.feed piece).1
    obtain ⟨there, hthere, hreaches⟩ := ih (Decoder.settled_feed decoder piece) hwritten
    refine ⟨there, ?_, fun giveUp next later => ?_⟩
    · have hfed : relay.write (Decoder.resolve (decoder.carry ++ piece)).1 = (.ok (), written) :=
        hwrite
      rw [hwhole, Relay.write_append, hfed]
      exact hthere
    · have honward := hreaches giveUp next later
      rw [hwhole, List.cons_append, pump]
      dsimp only
      split
      · next hempty =>
        rw [List.isEmpty_iff.mp hempty, Relay.write_nil] at hwrite
        obtain rfl : relay = written := congrArg Prod.snd hwrite
        exact honward
      · have hput : Outlet.put relay (decoder.feed piece).1 = (.ok (), written) := hwrite
        apply Activity.Reaches.put
        rw [hput]
        exact honward

/-- Between any two reads of a child's output, whatever will be read later and however the child
ends, a run over a sink that never fails has posted every line that was read to its end. -/
theorem lines_posted_between_reads {size : ℕ} {read : Bytes} {reads : List Delivery}
    (hreads : Delivers size read reads) {sink : σ} (hsink : Sink.NeverFails sink)
    (pending : Text) :
    ∃ (decoder : Decoder) (relay : Relay σ),
      (∀ (command : Text) (memory : μ) (status : ExitStatus) (later : List Delivery),
        (activity command memory ⟨reads ++ later, status⟩).Reaches (Relay.mk sink pending)
          (pump (abandon command memory) (conclude command memory status) decoder later) relay) ∧
      relay.UpToDate sink pending read decoder := by
  have hsettled : Decoder.Settled ⟨(Decoder.resolve read).2⟩ := Decoder.resolve_carry read
  have hrelay : Sink.NeverFails (Relay.mk sink pending).sink := hsink
  obtain ⟨there, hwrite, hreaches⟩ := reaches_pump (μ := μ) hreads Decoder.settled_fresh hrelay
  simp only [List.nil_append] at hwrite hreaches
  refine ⟨⟨(Decoder.resolve read).2⟩, there, fun command memory status later => hreaches _ _ later,
    ?_⟩
  -- The carry completes no line, so its reading only makes the pending text longer.
  have hlines : (Utf8.lossyLines read).after pending =
      let written := (Lines.split '\n' (Decoder.resolve read).1).after pending
      ⟨written.complete, written.rest ++ Utf8.lossy (Decoder.resolve read).2⟩ := by
    rw [← Utf8.split_lossy, ← Decoder.resolve_lossy, Lines.after_split_append,
      Lines.split_of_not_mem (Decoder.newline_not_mem_lossy_carry hsettled)]
    simp [Lines.after]
  obtain ⟨later, hposted, -⟩ :=
    hsink.postAll (((Lines.split '\n' (Decoder.resolve read).1).after pending).complete.map .stdout)
  simp only [Relay.write, hposted, Prod.mk.injEq, true_and] at hwrite
  subst hwrite
  refine ⟨?_, Utf8.length_complete_lossyLines_after pending read, ?_,
    Decoder.newline_not_mem_carry hsettled⟩
  · rw [hlines]
    exact hposted
  · rw [← Utf8.rest_lossyLines_after, hlines]

/-- A newline arrives right behind a sequence cut short, and another sequence is cut short. -/
theorem lines_posted_between_reads_cut_sequence :
    let read : Bytes := [0x61, 0xE2, 0x82, 0x0A, 0x62, 0xCE]
    let reads : List Delivery :=
      [.bytes [0x61, 0xE2, 0x82], .interrupted, .bytes [0x0A, 0x62, 0xCE]]
    Delivers 3 read reads ∧ Sink.NeverFails ({} : Recorder) ∧
      ∃ (decoder : Decoder) (relay : Relay Recorder),
        (∀ later, (activity ['x'] () ⟨reads ++ later, .code 0⟩).Reaches
          (Relay.mk ({} : Recorder) ['p'])
          (pump (abandon ['x'] ()) (conclude ['x'] () (.code 0)) decoder later) relay) ∧
        relay.sink.delivered = [.stdout ['p', 'a', Utf8.replacement]] ∧
        relay.pending ++ Utf8.lossy decoder.carry = ['b', Utf8.replacement] := by
  intro read reads
  have hreads : Delivers 3 read reads :=
    @Delivers.bytes 3 [0x61, 0xE2, 0x82] _ _ (by simp) (by simp) <| .interrupted <|
      @Delivers.bytes 3 [0x0A, 0x62, 0xCE] [] _ (by simp) (by simp) .finished
  have hsink : Sink.NeverFails ({} : Recorder) := Recorder.neverFails_of_refuses_none fun _ => rfl
  obtain ⟨decoder, relay, hreaches, hrelay⟩ :=
    lines_posted_between_reads (μ := Unit) hreads hsink ['p']
  have hlines : (Utf8.lossyLines read).after ['p'] =
      ⟨[['p', 'a', Utf8.replacement]], ['b', Utf8.replacement]⟩ := by decide +kernel
  have hposted := hrelay.posted
  rw [hlines] at hposted
  refine ⟨hreads, hsink, decoder, relay, fun later => hreaches _ _ _ later, ?_, ?_⟩
  · exact (congrArg (·.2.delivered) hposted).symm
  · rw [hrelay.unfinished, ← Utf8.rest_lossyLines_after, hlines]

end Child

end BenchRelay
