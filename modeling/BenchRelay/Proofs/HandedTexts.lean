import BenchRelay.Payload.Launch
import BenchRelay.Payload.Transcript
import BenchRelay.Proofs.ChildRun

/-!
# The texts that a child's output is handed over in

What a run of a child writes is fixed before it writes anything: every piece that is read is decoded
to one text, the end of the output to one more, and the empty ones among them are left out. The
outlet decides only how far the run comes. Where all texts are taken the child is judged by how it
ended, and where one is refused it is not, whatever its exit status. A child that does not start
writes nothing.
-/

namespace BenchRelay

namespace Outlet

variable {η : Type} [Outlet η]

/-- Write texts in order up to the first that is not taken. -/
def putAll : η → List Text → Except SinkError Unit × η
  | outlet, [] => (.ok (), outlet)
  | outlet, text :: rest =>
    match put outlet text with
    | (.ok (), outlet) => putAll outlet rest
    | (.error error, outlet) => (.error error, outlet)

theorem putAll_cons_of_ok {outlet next : η} {text : Text} (h : put outlet text = (.ok (), next))
    (rest : List Text) : putAll outlet (text :: rest) = putAll next rest := by
  rw [putAll, h]

theorem putAll_cons_of_error {outlet next : η} {text : Text} {error : SinkError}
    (h : put outlet text = (.error error, next)) (rest : List Text) :
    putAll outlet (text :: rest) = (.error error, next) := by
  rw [putAll, h]

end Outlet

namespace Utf8

/-- Only nothing is read as nothing. -/
theorem lossy_eq_nil_iff {b : Bytes} : lossy b = [] ↔ b = [] := by
  cases b with
  | nil => simp
  | cons x b =>
    cases hfront : front x b with
    | character c rest => simp [lossy_of_front_character hfront]
    | illFormed rest => simp [lossy_of_front_illFormed hfront]
    | cutShort => simp [lossy_of_front_cutShort hfront]

end Utf8

theorem Decoder.length_calls (decoder : Decoder) (made : List Call) :
    (decoder.calls made).1.length = made.length := by
  induction made generalizing decoder with
  | nil => rfl
  | cons first rest ih => simp [calls, ih]

namespace Transcript

/-- A transcript that refuses none of some texts keeps them. -/
theorem putAll_of_takes (transcript : Transcript) (texts : List Text)
    (h : ∀ i < texts.length, transcript.refuses (transcript.texts.length + i + 1) = false) :
    Outlet.putAll transcript texts =
      (.ok (), { transcript with texts := transcript.texts ++ texts }) := by
  induction texts generalizing transcript with
  | nil => simp [Outlet.putAll]
  | cons text texts ih =>
    have hfirst : Outlet.put transcript text =
        (.ok (), { transcript with texts := transcript.texts ++ [text] }) := by
      have hnumber := h 0 (by simp)
      simp only [Nat.add_zero] at hnumber
      simp [Outlet.put, Transcript.put, hnumber]
    rw [Outlet.putAll_cons_of_ok hfirst, ih]
    · simp
    · intro i hi
      have hnext := h (i + 1) (by simpa using hi)
      simpa [Nat.add_assoc, Nat.add_comm 1 i] using hnext

theorem put_of_refuses {transcript : Transcript}
    (h : transcript.refuses (transcript.texts.length + 1)) (text : Text) :
    Outlet.put transcript text =
      (.error .disconnected, { transcript with texts := transcript.texts ++ [text] }) := by
  simp [Outlet.put, Transcript.put, h]

end Transcript

/-- One thing that a run does. -/
inductive Doing where
  /-- It writes a text. -/
  | put (text : Text)
  /-- It logs an event. -/
  | log (event : Event)
  deriving Repr, DecidableEq

namespace Activity

variable {μ η : Type} [Outlet η]

/-- What a run does against an outlet, in order. -/
def doings : Activity μ → η → List Doing
  | .finish _ _, _ => []
  | .log event next, outlet => .log event :: next.doings outlet
  | .put text next, outlet =>
    .put text :: (next (Outlet.put outlet text).1).doings (Outlet.put outlet text).2

/-- What is logged is what the run does but for its writes. -/
theorem log_run (activity : Activity μ) (outlet : η) : (activity.run outlet).log =
    (activity.doings outlet).filterMap fun
      | .log event => some event
      | .put _ => none := by
  induction activity generalizing outlet with
  | finish outcome memory => rfl
  | log event next ih => simp [run, doings, ih]
  | put text next ih => exact ih _ _

/-- What a transcript keeps is what the run writes. -/
theorem texts_run (activity : Activity μ) (transcript : Transcript) :
    (activity.run transcript).outlet.texts = transcript.texts ++
      (activity.doings transcript).filterMap fun
        | .put text => some text
        | .log _ => none := by
  induction activity generalizing transcript with
  | finish outcome memory => simp [run, doings]
  | log event next ih => exact ih transcript
  | put text next ih =>
    refine (ih _ _).trans ?_
    simp [doings, Outlet.put, Transcript.put]

end Activity

/-- The bytes that a read brings, if it brings any. -/
def Delivery.bytes? : Delivery → Option Bytes
  | .bytes b => some b
  | .interrupted | .failed _ => none

namespace Child

variable {μ : Type}

/-- The pieces that output is read in. -/
def pieces (reads : List Delivery) : List Bytes := reads.filterMap Delivery.bytes?

/-- The texts that reads are decoded to behind what a decoder holds back, the end of the output
included and empty texts left out. -/
def textsFrom (decoder : Decoder) (reads : List Delivery) : List Text :=
  (decoder.calls ((pieces reads).map .feed ++ [.flush])).1.filter (· ≠ [])

/-- The texts that the output of a child is decoded to. -/
def texts (reads : List Delivery) : List Text := textsFrom {} reads

theorem flatten_pieces {size : ℕ} {output : Bytes} {reads : List Delivery}
    (h : Delivers size output reads) : (pieces reads).flatten = output := by
  induction h with
  | finished => rfl
  | interrupted _ ih => exact ih
  | bytes _ _ _ ih => simpa [pieces, Delivery.bytes?] using ih

theorem textsFrom_nil (decoder : Decoder) :
    textsFrom decoder [] = if decoder.holdsBytes then [decoder.flush.1] else [] := by
  have hempty : decoder.flush.1 = [] ↔ decoder.carry = [] := Utf8.lossy_eq_nil_iff
  simp only [textsFrom, pieces, List.filterMap_nil, List.map_nil, List.nil_append, Decoder.calls,
    Decoder.call, Decoder.holdsBytes, List.filter_cons, List.filter_nil]
  by_cases hcarry : decoder.carry = [] <;> simp [hempty, hcarry]

theorem textsFrom_bytes (decoder : Decoder) (b : Bytes) (reads : List Delivery) :
    textsFrom decoder (.bytes b :: reads) =
      if (decoder.feed b).1.isEmpty then textsFrom (decoder.feed b).2 reads
      else (decoder.feed b).1 :: textsFrom (decoder.feed b).2 reads := by
  simp only [textsFrom, pieces, List.filterMap_cons, Delivery.bytes?, List.map_cons,
    List.cons_append, Decoder.calls, Decoder.call, List.filter_cons]
  cases (decoder.feed b).1 <;> simp

theorem texts_ne_nil {reads : List Delivery} {text : Text} (h : text ∈ texts reads) :
    text ≠ [] := by
  simpa using (List.mem_filter.mp h).2

/-- There is at most one text for each piece and one for the end. -/
theorem length_texts_le (reads : List Delivery) :
    (texts reads).length ≤ (pieces reads).length + 1 := by
  have hcalls := Decoder.length_calls {} ((pieces reads).map .feed ++ [.flush])
  simp only [List.length_append, List.length_map, List.length_singleton] at hcalls
  rw [← hcalls]
  exact List.length_filter_le _ _

/-- The texts are the lossy reading of the output. -/
theorem flatten_texts {size : ℕ} {output : Bytes} {reads : List Delivery}
    (h : Delivers size output reads) : (texts reads).flatten = Utf8.lossy output := by
  have hread := Decoder.calls_feed_flush Decoder.settled_fresh (pieces reads)
  rw [flatten_pieces h] at hread
  rw [texts, textsFrom, List.flatten_filter_ne_nil]
  exact hread

/-- Write texts one after another and go on if all are taken. -/
def putEach (giveUp : RunError → Activity μ) (texts : List Text) (next : Activity μ) : Activity μ :=
  texts.foldr (putOr giveUp) next

/-- What is done with output is to write its texts. -/
theorem pump_eq {size : ℕ} {b : Bytes} {reads : List Delivery} (h : Delivers size b reads)
    (decoder : Decoder) (giveUp : RunError → Activity μ) (next : Activity μ) :
    pump giveUp next decoder reads = putEach giveUp (textsFrom decoder reads) next := by
  induction h generalizing decoder with
  | finished =>
    rw [pump, textsFrom_nil]
    split <;> rfl
  | interrupted _ ih => exact ih decoder
  | bytes _ _ _ ih =>
    rw [pump, textsFrom_bytes]
    dsimp only
    split
    · exact ih _
    · rw [ih]
      rfl

section Texts

variable {η : Type} [Outlet η] (giveUp : RunError → Activity μ) (next : Activity μ)

/-- Where all texts are taken they are written, and then the run goes on. -/
theorem putEach_of_taken {texts : List Text} {outlet taken : η}
    (h : Outlet.putAll outlet texts = (.ok (), taken)) :
    (putEach giveUp texts next).run outlet = next.run taken ∧
      (putEach giveUp texts next).doings outlet = texts.map .put ++ next.doings taken := by
  induction texts generalizing outlet with
  | nil =>
    obtain rfl : outlet = taken := congrArg Prod.snd h
    exact ⟨rfl, rfl⟩
  | cons text texts ih =>
    cases hput : Outlet.put outlet text with
    | mk outcome later =>
      cases outcome with
      | error error =>
        rw [Outlet.putAll_cons_of_error hput] at h
        exact absurd (congrArg Prod.fst h) (by simp)
      | ok =>
        rw [Outlet.putAll_cons_of_ok hput] at h
        obtain ⟨hrun, hdoings⟩ := ih h
        constructor
        · simpa only [putEach, List.foldr_cons, putOr, Activity.run, hput] using hrun
        · simpa only [putEach, List.foldr_cons, putOr, Activity.doings, hput, List.map_cons,
            List.cons_append, List.cons.injEq, true_and] using hdoings

/-- Where a text is refused it is the last one that is written, and the run gives up. -/
theorem putEach_of_refused {before : List Text} {outlet reached refused : η} {text : Text}
    {error : SinkError} (htaken : Outlet.putAll outlet before = (.ok (), reached))
    (hrefused : Outlet.put reached text = (.error error, refused)) (after : List Text) :
    (putEach giveUp (before ++ text :: after) next).run outlet =
        (giveUp (.sink error)).run refused ∧
      (putEach giveUp (before ++ text :: after) next).doings outlet =
        (before ++ [text]).map .put ++ (giveUp (.sink error)).doings refused := by
  have hsplit : putEach giveUp (before ++ text :: after) next =
      putEach giveUp before (putEach giveUp (text :: after) next) := List.foldr_append
  obtain ⟨hrun, hdoings⟩ := putEach_of_taken giveUp (putEach giveUp (text :: after) next) htaken
  rw [hsplit, hrun, hdoings]
  constructor
  · simp only [putEach, List.foldr_cons, putOr, Activity.run, hrefused]
  · simp only [putEach, List.foldr_cons, putOr, Activity.doings, hrefused, List.map_append,
      List.map_cons, List.map_nil, List.append_assoc, List.cons_append, List.nil_append]

end Texts

section Started

variable {size : ℕ} {output : Bytes} {reads : List Delivery} {command : Text} {status : ExitStatus}
  {launch : μ → Launch × μ} {memory later : μ}

/-- A run of a started child writes its texts, and then judges it. -/
theorem main_of_delivers (hreads : Delivers size output reads)
    (hlaunch : launch memory = (.started ⟨reads, status⟩, later)) :
    (payload command launch).main memory =
      putEach (abandon command later) (texts reads) (conclude command later status) := by
  rw [main_of_started hlaunch, activity, pump_eq hreads, texts]

variable {η : Type} [Outlet η]

/-- Where all texts are taken the child is judged by its exit status. -/
theorem main_of_taken (hreads : Delivers size output reads)
    (hlaunch : launch memory = (.started ⟨reads, status⟩, later)) {outlet taken : η}
    (h : Outlet.putAll outlet (texts reads) = (.ok (), taken)) :
    ((payload command launch).main memory).doings outlet =
        (texts reads).map .put ++ [.log (.childExited command status)] ∧
      ((payload command launch).main memory).run outlet =
        ⟨if status.isSuccess then .ok () else .error (.child (.exit command status)), later, taken,
          [.childExited command status]⟩ := by
  rw [main_of_delivers hreads hlaunch]
  exact (putEach_of_taken _ _ h).symm

/-- Where a text is refused the run fails as the outlet does. -/
theorem main_of_refused (hreads : Delivers size output reads)
    (hlaunch : launch memory = (.started ⟨reads, status⟩, later)) {outlet reached refused : η}
    {n : ℕ} {text : Text} {error : SinkError} (htext : (texts reads)[n]? = some text)
    (h : Outlet.putAll outlet ((texts reads).take n) = (.ok (), reached))
    (hput : Outlet.put reached text = (.error error, refused)) :
    ((payload command launch).main memory).doings outlet =
        ((texts reads).take (n + 1)).map .put ++
          [.log (.forwardingFailed command (.sink error))] ∧
      ((payload command launch).main memory).run outlet =
        ⟨.error (.sink error), later, refused, [.forwardingFailed command (.sink error)]⟩ := by
  obtain ⟨hlt, hn⟩ := List.getElem?_eq_some_iff.mp htext
  have hsplit : texts reads = (texts reads).take n ++ text :: (texts reads).drop (n + 1) := by
    rw [← hn, List.getElem_cons_drop, List.take_append_drop]
  have hputs := putEach_of_refused (abandon command later) (conclude command later status) h hput
    ((texts reads).drop (n + 1))
  rw [← hsplit] at hputs
  rw [main_of_delivers hreads hlaunch, List.take_add_one, htext, Option.toList_some]
  exact hputs.symm

/-- The texts of a transcript where none is refused up to a number, and where that one is. -/
theorem texts_of_transcript (hreads : Delivers size output reads)
    (hlaunch : launch memory = (.started ⟨reads, status⟩, later)) (refuses : ℕ → Bool) :
    let execution := ((payload command launch).main memory).run ({ refuses } : Transcript)
    ((∀ n < (texts reads).length, refuses (n + 1) = false) →
      execution.outlet.texts = texts reads ∧
      execution.outcome =
        if status.isSuccess then .ok () else .error (.child (.exit command status))) ∧
    ∀ n < (texts reads).length, (∀ i < n, refuses (i + 1) = false) → refuses (n + 1) →
      execution.outlet.texts = (texts reads).take (n + 1) ∧
      execution.outcome = .error (.sink .disconnected) := by
  intro execution
  constructor
  · intro htakes
    obtain ⟨-, hrun⟩ := main_of_taken hreads hlaunch
      (Transcript.putAll_of_takes { refuses } (texts reads) (by simpa using htakes))
    rw [show execution = _ from hrun]
    exact ⟨rfl, rfl⟩
  · intro n hn htakes hrefuses
    have hlength : ((texts reads).take n).length = n := by simp; omega
    have hreached := Transcript.putAll_of_takes { refuses } ((texts reads).take n)
      (by simpa [hlength] using htakes)
    obtain ⟨-, hrun⟩ := main_of_refused hreads hlaunch (List.getElem?_eq_getElem hn) hreached
      (Transcript.put_of_refuses (by simpa [hlength] using hrefuses) _)
    rw [show execution = _ from hrun, List.take_add_one, List.getElem?_eq_getElem hn]
    exact ⟨rfl, rfl⟩

end Started

end Child

namespace Command

/-- The working directory is looked at before anything else. -/
theorem main_of_not_isDirectory {command : Command} {machine : Machine} {directory : Text}
    (hset : command.directory = some directory)
    (hnone : machine.files.isDirectory directory = false)
    (inherited : Environment) : (command.payload inherited).main machine =
      .finish (.error (.child (.missingDirectory directory)))
        { machine with errors := machine.errors ++ [[]] } := by
  have henter : command.enter machine.files = .error directory := by
    simp only [enter, hset]
    unfold Files.isDirectory Files.find? at hnone
    split
    · rfl
    · next place hplace =>
      rw [hplace] at hnone
      simp only [Files.isDirectoryAt, hnone, Bool.false_eq_true, if_false]
  simp only [payload, Child.payload, launch, henter]

/-- Then it is looked for the program. -/
theorem main_of_refusal {command : Command} {machine : Machine} {there : Files}
    (henter : command.enter machine.files = .ok there) {inherited : Environment}
    {refusal : Refusal} (hfind : command.findProgram inherited there = .error refusal) :
    (command.payload inherited).main machine =
      .finish (.error (.child (.spawn command.program refusal.message)))
        { machine with errors := machine.errors ++ [[]] } := by
  simp only [payload, Child.payload, launch, henter, hfind]

end Command

namespace Child

variable {μ : Type}

/-- The texts of a child's output do not depend on the outlet: none is empty, there is at most one
for each piece that is read and one for the end, and together they are the lossy reading of the
output. Where the outlet takes all of them they are written, the end of the child is logged behind
the last, and the child is judged. Where one is refused it is the last that is written, and the run
fails as the outlet does, however the child ended. Where the working directory is none, which is
looked at first, or the operating system does not start the child, the run fails at once. -/
theorem texts_handed_over {size : ℕ} {output : Bytes} {reads : List Delivery}
    (hreads : Delivers size output reads) (command : Text) (status : ExitStatus)
    {launch : μ → Launch × μ} {memory later : μ}
    (hlaunch : launch memory = (.started ⟨reads, status⟩, later)) :
    let main := (payload command launch).main memory
    let judged : Except RunError Unit :=
      if status.isSuccess then .ok () else .error (.child (.exit command status))
    ((∀ text ∈ texts reads, text ≠ []) ∧ (texts reads).length ≤ (pieces reads).length + 1 ∧
      (texts reads).flatten = Utf8.lossy output) ∧
    (∀ {η : Type} [Outlet η] (outlet taken : η),
      Outlet.putAll outlet (texts reads) = (.ok (), taken) →
        main.doings outlet = (texts reads).map .put ++ [.log (.childExited command status)] ∧
        main.run outlet = ⟨judged, later, taken, [.childExited command status]⟩) ∧
    (∀ {η : Type} [Outlet η] (outlet reached refused : η) (n : ℕ) (text : Text) (error : SinkError),
      (texts reads)[n]? = some text →
        Outlet.putAll outlet ((texts reads).take n) = (.ok (), reached) →
        Outlet.put reached text = (.error error, refused) →
          main.doings outlet = ((texts reads).take (n + 1)).map .put ++
            [.log (.forwardingFailed command (.sink error))] ∧
          main.run outlet = ⟨.error (.sink error), later, refused,
            [.forwardingFailed command (.sink error)]⟩) ∧
    (∀ refuses : ℕ → Bool,
      let execution := main.run ({ refuses } : Transcript)
      ((∀ n < (texts reads).length, refuses (n + 1) = false) →
        execution.outlet.texts = texts reads ∧ execution.outcome = judged) ∧
      ∀ n < (texts reads).length, (∀ i < n, refuses (i + 1) = false) → refuses (n + 1) →
        execution.outlet.texts = (texts reads).take (n + 1) ∧
        execution.outcome = .error (.sink .disconnected)) ∧
    (∀ other reason left, launch other = (.refused reason, left) →
      (payload command launch).main other =
        .finish (.error (.child (.spawn command reason))) left) ∧
    ∀ (start : Command) (inherited : Environment) (machine : Machine),
      (∀ directory, start.directory = some directory →
        machine.files.isDirectory directory = false →
          ∃ left, (start.payload inherited).main machine =
            .finish (.error (.child (.missingDirectory directory))) left) ∧
      ∀ there refusal, start.enter machine.files = .ok there →
        start.findProgram inherited there = .error refusal →
          ∃ left, (start.payload inherited).main machine =
            .finish (.error (.child (.spawn start.program refusal.message))) left := by
  intro main judged
  refine ⟨⟨fun text => texts_ne_nil, length_texts_le reads, flatten_texts hreads⟩,
    fun outlet taken => main_of_taken hreads hlaunch,
    fun outlet reached refused n text error => main_of_refused hreads hlaunch,
    texts_of_transcript hreads hlaunch, ?_, ?_⟩
  · intro other reason left h
    simp only [payload, h]
  · intro start inherited machine
    constructor
    · intro directory hset hnone
      exact ⟨_, Command.main_of_not_isDirectory hset hnone inherited⟩
    · intro there refusal henter hfind
      exact ⟨_, Command.main_of_refusal henter hfind⟩

/-- The text at the end of the output is refused, a character that never came to its end; and a
command without its working directory. -/
theorem texts_handed_over_last_refused :
    let output : Bytes := [0xCE, 0xBC, 0x61, 0xE2]
    let reads : List Delivery := [.bytes [0xCE], .interrupted, .bytes [0xBC, 0x61], .bytes [0xE2]]
    let launch (reads : List Delivery) : Launch × List Delivery := (.started ⟨reads, .code 3⟩, [])
    let main := (payload ['x'] launch).main reads
    let sink : Transcript := { refuses := fun n => n = 2 }
    let start : Command := { program := ['x'], args := [], directory := some ['n'] }
    let machine : Machine := { files := ⟨[], []⟩ }
    Delivers 2 output reads ∧ texts reads = [['μ', 'a'], [Utf8.replacement]] ∧
      main.doings sink = [.put ['μ', 'a'], .put [Utf8.replacement],
        .log (.forwardingFailed ['x'] (.sink .disconnected))] ∧
      (main.run sink).outlet.texts = texts reads ∧
      (main.run sink).outcome = .error (.sink .disconnected) ∧
      ∃ left, (start.payload []).main machine =
        .finish (.error (.child (.missingDirectory ['n']))) left := by
  intro output reads launch main sink start machine
  have hdelivers : Delivers 2 output reads :=
    @Delivers.bytes 2 [0xCE] _ _ (by simp) (by simp) <| .interrupted <|
      @Delivers.bytes 2 [0xBC, 0x61] _ _ (by simp) (by simp) <|
        @Delivers.bytes 2 [0xE2] [] _ (by simp) (by simp) .finished
  have htexts : texts reads = [['μ', 'a'], [Utf8.replacement]] := by decide +kernel
  obtain ⟨-, -, hrefused, htranscript, -, hstart⟩ :=
    texts_handed_over hdelivers ['x'] (.code 3) (show launch reads = _ from rfl)
  obtain ⟨hdoings, -⟩ := hrefused sink { sink with texts := [['μ', 'a']] }
    { sink with texts := [['μ', 'a'], [Utf8.replacement]] } 1 [Utf8.replacement] .disconnected
    (by rw [htexts]; rfl) (by rw [htexts]; rfl) rfl
  obtain ⟨hwritten, houtcome⟩ := (htranscript sink.refuses).2 1 (by simp [htexts])
    (by simp [sink]) rfl
  rw [htexts] at hdoings hwritten
  refine ⟨hdelivers, htexts, hdoings, ?_, houtcome, ?_⟩
  · rw [htexts]
    exact hwritten
  · exact (hstart start [] machine).1 ['n'] rfl (by cbv)

end Child

end BenchRelay
