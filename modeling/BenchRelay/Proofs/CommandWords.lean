import BenchRelay.Proofs.ValidConfigs
import Mathlib.Data.List.TakeWhile

/-!
# What stands behind two dashes is the command

In front of two dashes every option may be said once, in any order and spelling. A value in a word
of its own waits until the next option is read, or the end, so reading is followed by what the
options are once it is looked at: `Progress.Stands`. Behind the dashes no word is read at all: it is
part of the command, however much it looks like an option.
-/

namespace BenchRelay.Options

/-- One thing that a command line says by an option. -/
inductive Said where
  | once
  | chunkBytes (n : ℕ)
  | config (path : Text)
  deriving Repr, DecidableEq

namespace Said

/-- The option that says it. -/
def known : Said → Known
  | .once => .flag .once
  | .chunkBytes _ => .setting .chunkBytes
  | .config _ => .setting .config

/-- The values that say something for an option. A number is in decimal digits, perhaps with zeros
in front. -/
inductive ByValue : Setting → Text → Said → Prop
  | chunkBytes {n zeros : ℕ} (h : n < Nat.pow 2 64) :
      ByValue .chunkBytes (List.replicate zeros '0' ++ Text.decimal n) (.chunkBytes n)
  | config {path : Text} (nonempty : path ≠ []) (noDash : path.head? ≠ some '-') :
      ByValue .config path (.config path)

end Said

/-- The long name of an option with a value. -/
def Setting.name : Setting → Text
  | .config => "config"
  | .chunkBytes => "chunk-bytes"

theorem Setting.ofLong?_name (setting : Setting) :
    ofLong? setting.name = some (.setting setting) := by
  cases setting <;> rfl

theorem Setting.name_ne_nil (setting : Setting) : setting.name ≠ [] := by
  cases setting <;> decide

namespace Said

/-- The words that say something. -/
inductive Spelled : Said → List Text → Prop
  | once : Spelled .once ["--once"]
  | apart {setting : Setting} {value : Text} {said : Said} (h : ByValue setting value said) :
      Spelled said ['-' :: '-' :: setting.name, value]
  | joined {setting : Setting} {value : Text} {said : Said} (h : ByValue setting value said) :
      Spelled said ['-' :: '-' :: setting.name ++ '=' :: value]
  | letter {path : Text} {said : Said} (h : ByValue .config path said) : Spelled said ["-c", path]

/-- The words that say several things in order. -/
inductive AllSpelled : List Said → List Text → Prop
  | nil : AllSpelled [] []
  | cons {said : Said} {more : List Said} {words later : List Text} (h : Spelled said words)
      (others : AllSpelled more later) : AllSpelled (said :: more) (words ++ later)

end Said

/-- Whether nothing was said yet by the option that says something. -/
def Lacks (options : Options) : Said → Prop
  | .once => options.once = false
  | .chunkBytes _ => options.chunkBytes = none
  | .config _ => options.config = none

/-- Options with one more thing said. -/
def note (options : Options) : Said → Options
  | .once => { options with once := true }
  | .chunkBytes n => { options with chunkBytes := some n }
  | .config path => { options with config := some path }

/-- Options that say given things and nothing else. -/
structure Reports (options : Options) (said : List Said) : Prop where
  once : options.once = true ↔ .once ∈ said
  chunkBytes : ∀ n, options.chunkBytes = some n ↔ .chunkBytes n ∈ said
  config : ∀ path, options.config = some path ↔ .config path ∈ said

theorem reports_fresh : Reports {} [] := ⟨by simp, by simp, by simp⟩

/-- What was said by other options only leaves room for one more thing. -/
theorem Reports.lacks {options : Options} {said : List Said} (h : options.Reports said) {one : Said}
    (hone : ∀ other ∈ said, other.known ≠ one.known) : options.Lacks one := by
  cases one with
  | once =>
    rw [Lacks, ← Bool.not_eq_true]
    exact fun honce => hone .once (h.once.mp honce) rfl
  | chunkBytes n =>
    apply Option.eq_none_iff_forall_ne_some.mpr
    exact fun m hm => hone _ ((h.chunkBytes m).mp hm) rfl
  | config path =>
    apply Option.eq_none_iff_forall_ne_some.mpr
    exact fun other hother => hone _ ((h.config other).mp hother) rfl

theorem Reports.note {options : Options} {said : List Said} (h : options.Reports said)
    {one : Said} (hlacks : options.Lacks one) : (options.note one).Reports (said ++ [one]) := by
  obtain ⟨honce, hchunk, hconfig⟩ := h
  cases one with
  | once => exact ⟨by simp [Options.note], by simpa [Options.note] using hchunk,
      by simpa [Options.note] using hconfig⟩
  | chunkBytes n =>
    have hnone : ∀ m, .chunkBytes m ∉ said := by
      intro m hm
      rw [Lacks] at hlacks
      simp [hlacks, ← hchunk] at hm
    exact ⟨by simpa [Options.note] using honce, by simp [Options.note, hnone, eq_comm],
      by simpa [Options.note] using hconfig⟩
  | config path =>
    have hnone : ∀ other, .config other ∉ said := by
      intro other hother
      rw [Lacks] at hlacks
      simp [hlacks, ← hconfig] at hother
    exact ⟨by simpa [Options.note] using honce, by simpa [Options.note] using hchunk,
      by simp [Options.note, hnone, eq_comm]⟩

theorem number?_decimal {n : ℕ} (zeros : ℕ) (h : n < Nat.pow 2 64) :
    number? (List.replicate zeros '0' ++ Text.decimal n) = some n := by
  have hdigits : ∀ c ∈ List.replicate zeros '0' ++ Text.decimal n, c.isDigit := by
    intro c hc
    rcases List.mem_append.mp hc with hzero | hdigit
    · rw [List.eq_of_mem_replicate hzero]
      decide
    · exact Nat.isDigit_of_mem_toDigits (by decide) (by decide) hdigit
  have hvalue : (List.replicate zeros '0' ++ Text.decimal n).foldl
      (fun n c => n * 10 + (c.toNat - '0'.toNat)) 0 = n := by
    have hzeros (zeros : ℕ) : (List.replicate zeros '0').foldl
        (fun n c => n * 10 + (c.toNat - '0'.toNat)) 0 = 0 := by
      induction zeros with
      | zero => rfl
      | succ zeros ih => exact ih
    rw [List.foldl_append, hzeros]
    simp only [Nat.mul_comm _ 10]
    exact Nat.ofDigitChars_toDigits (by decide) (by decide)
  have hnonempty : List.replicate zeros '0' ++ Text.decimal n ≠ [] := by
    simp [Text.decimal, Nat.toDigits_ne_nil]
  have hlimit : n ≤ numberLimit := Nat.le_sub_one_of_lt h
  have hsign : ∀ rest, List.replicate zeros '0' ++ Text.decimal n ≠ '+' :: rest := by
    intro rest heq
    have hplus : '+'.isDigit := hdigits '+' (by simp [heq])
    exact absurd hplus (by decide)
  unfold number?
  split
  · next rest heq => exact absurd heq (hsign rest)
  · rw [if_neg (by simp [hnonempty, List.all_eq_true.mpr hdigits]), hvalue]
    exact if_pos hlimit

namespace Said.ByValue

variable {setting : Setting} {value : Text} {said : Said}

/-- No value can be taken for an option. -/
theorem head?_ne_dash (h : ByValue setting value said) : value.head? ≠ some '-' := by
  cases h with
  | @chunkBytes n zeros _ =>
    intro hdash
    have hmem : '-' ∈ List.replicate zeros '0' ++ Text.decimal n := List.mem_of_mem_head? hdash
    rcases List.mem_append.mp hmem with hzero | hdigit
    · exact absurd (List.eq_of_mem_replicate hzero) (by decide)
    · have hdash := Nat.isDigit_of_mem_toDigits (by decide) (by decide) hdigit
      exact absurd hdash (by decide)
  | config _ noDash => exact noDash

theorem value_ne_nil (h : ByValue setting value said) : value ≠ [] := by
  cases h with
  | chunkBytes => simp [Text.decimal, Nat.toDigits_ne_nil]
  | config nonempty => exact nonempty

/-- An option takes its value if it has none yet. -/
theorem assign (h : ByValue setting value said) {options : Options} (hlacks : options.Lacks said) :
    ({ options } : Progress).assign value setting = .ok { options := options.note said } := by
  cases h with
  | chunkBytes hn =>
    simp only [Lacks] at hlacks
    simp [Progress.assign, hlacks, number?_decimal _ hn, note]
  | config nonempty =>
    simp only [Lacks] at hlacks
    simp [Progress.assign, hlacks, nonempty, note]

end Said.ByValue

namespace Progress

/-- What the options are once the value that was left for later is looked at. -/
def Stands (progress : Progress) (options : Options) : Prop := progress.settle = .ok { options }

theorem stands_fresh : Stands {} {} := rfl

theorem splitLong_of_value {name : Text} (hname : '=' ∉ name) (value : Text) :
    splitLong (name ++ '=' :: value) = (name, some value) := by
  have hall : ∀ c ∈ name, decide (c ≠ '=') = true := by
    intro c hc
    exact decide_eq_true fun heq => hname (heq ▸ hc)
  simp only [splitLong, List.takeWhile_append_of_pos hall, List.dropWhile_append_of_pos hall]
  simp

theorem splitLong_of_not_mem {name : Text} (hname : '=' ∉ name) :
    splitLong name = (name, none) := by
  have hall : ∀ c ∈ name, decide (c ≠ '=') = true := by
    intro c hc
    exact decide_eq_true fun heq => hname (heq ▸ hc)
  simp only [splitLong, List.takeWhile_eq_self_iff.mpr hall, List.dropWhile_eq_nil_iff.mpr hall]

theorem readAll_long (progress : Progress) {word : Text} (hword : word ≠ []) (more : List Text) :
    progress.readAll (('-' :: '-' :: word) :: more) =
      (progress.readLong word).bind (·.readAll more) := by
  obtain ⟨c, rest, rfl⟩ := List.exists_cons_of_ne_nil hword
  rfl

/-- A word without a dash in front is the value of the option before it. -/
theorem readAll_plain {options : Options} {setting : Setting} {word : Text} (hword : word ≠ [])
    (hdash : word.head? ≠ some '-') (more : List Text) :
    ({ options, pending := some (setting, none) } : Progress).readAll (word :: more) =
      ({ options, pending := some (setting, some word) } : Progress).readAll more := by
  obtain ⟨c, rest, rfl⟩ := List.exists_cons_of_ne_nil hword
  have hc : c ≠ '-' := by simpa using hdash
  rw [readAll]
  · rfl
  · simp [hc]
  · simp [hc]
  · simp [hc]

/-- A thing said in words of its own leaves the options with that thing noted. -/
theorem readAll_of_spelled {progress : Progress} {options : Options} (h : progress.Stands options)
    {said : Said} {words : List Text} (hwords : said.Spelled words) (hlacks : options.Lacks said) :
    ∃ next : Progress, next.Stands (options.note said) ∧
      ∀ more, progress.readAll (words ++ more) = next.readAll more := by
  rw [Stands] at h
  cases hwords with
  | once =>
    simp only [Lacks] at hlacks
    refine ⟨{ options := options.note .once }, rfl, fun more => ?_⟩
    rw [List.singleton_append, show "--once".toList = '-' :: '-' :: "once".toList from rfl,
      readAll_long progress (by decide)]
    have hlong : progress.readLong "once".toList = progress.raise .once := rfl
    rw [hlong, raise, h]
    simp [Bind.bind, Except.bind, hlacks, note]
  | @apart setting value _ hvalue =>
    refine ⟨{ options, pending := some (setting, some value) }, hvalue.assign hlacks,
      fun more => ?_⟩
    have htaken : progress.readLong setting.name =
        .ok { options, pending := some (setting, none) } := by
      rw [readLong, splitLong_of_not_mem (by cases setting <;> decide)]
      simp only [Setting.ofLong?_name, take, h, Bind.bind, Except.bind]
    rw [List.cons_append, readAll_long progress setting.name_ne_nil, htaken]
    exact readAll_plain hvalue.value_ne_nil hvalue.head?_ne_dash more
  | @joined setting value _ hvalue =>
    refine ⟨{ options := options.note said }, rfl, fun more => ?_⟩
    have htaken : progress.readLong (setting.name ++ '=' :: value) =
        .ok { options := options.note said } := by
      rw [readLong, splitLong_of_value (by cases setting <;> decide)]
      simp only [Setting.ofLong?_name, take, h, Bind.bind, Except.bind, hvalue.assign hlacks]
    have hword : setting.name ++ '=' :: value ≠ [] := by simp
    rw [List.singleton_append, List.cons_append, List.cons_append, readAll_long progress hword,
      htaken]
    rfl
  | @letter value _ hvalue =>
    refine ⟨{ options, pending := some (.config, some value) }, hvalue.assign hlacks,
      fun more => ?_⟩
    have htaken : progress.readShort ['c'] = .ok { options, pending := some (.config, none) } := by
      change progress.take .config none = _
      simp only [take, h, Bind.bind, Except.bind]
    change (progress.readShort ['c']).bind (·.readAll (value :: more)) = _
    rw [htaken]
    exact readAll_plain hvalue.value_ne_nil hvalue.head?_ne_dash more

/-- Behind two dashes all words are the command, once the value that was left for later is looked
at. -/
theorem readAll_dashes {progress : Progress} {options : Options} (h : progress.Stands options)
    (rest : List Text) :
    progress.readAll ("--".toList :: rest) = .ok { options with command := rest } := by
  change progress.settle.bind _ = _
  rw [show progress.settle = _ from h]
  rfl

/-- Things said in order by different options are all noted. -/
theorem readAll_of_allSpelled {said : List Said} {words : List Text}
    (hwords : Said.AllSpelled said words) {progress : Progress} {options : Options}
    (h : progress.Stands options) {earlier : List Said} (hearlier : options.Reports earlier)
    (hdistinct : ((earlier ++ said).map Said.known).Nodup) :
    ∃ (next : Progress) (noted : Options), next.Stands noted ∧ noted.Reports (earlier ++ said) ∧
      ∀ more, progress.readAll (words ++ more) = next.readAll more := by
  -- What is noted first leaves room for what is said later, as that is said by other options.
  induction hwords generalizing progress options earlier with
  | nil => exact ⟨progress, options, h, by rwa [List.append_nil], fun _ => rfl⟩
  | @cons one said words later hone _ ih =>
    have hlacks : options.Lacks one := by
      apply hearlier.lacks
      intro other hother heq
      rw [List.map_append, List.nodup_append] at hdistinct
      exact hdistinct.2.2 _ (List.mem_map_of_mem hother) _ (by simp) heq
    obtain ⟨next, hnext, hread⟩ := readAll_of_spelled h hone hlacks
    rw [List.append_cons] at hdistinct ⊢
    obtain ⟨last, noted, hlast, hnoted, hlater⟩ := ih hnext (hearlier.note hlacks) hdistinct
    refine ⟨last, noted, hlast, hnoted, fun more => ?_⟩
    rw [List.append_assoc, hread, hlater]

end Progress

/-- Whatever options stand in front of two dashes, in any order and spelling, the words behind the
dashes are the command as they are, and a configuration that is valid with them takes them for its
program and arguments. -/
theorem command_behind_dashes {said : List Said} {words : List Text}
    (hwords : Said.AllSpelled said words) (hdistinct : (said.map Said.known).Nodup)
    (name : Text) (rest : List Text) :
    ∃ options, parse (name :: (words ++ "--".toList :: rest)) = .ok options ∧
      options.Reports said ∧ options.command = rest ∧
      ∀ (config : Config) (program : Text) (args : List Text), config.Valid →
        rest = program :: args → (∃ c ∈ program, c.toNat ∉ whiteSpace) →
        options.chunkBytes.getD config.readChunkBytes ≠ 0 →
        ∃ applied command, options.apply config = .ok applied ∧
          Command.ofConfig applied = .ok command ∧ command.program :: command.args = rest := by
  obtain ⟨next, noted, hnext, hnoted, hread⟩ :=
    Progress.readAll_of_allSpelled hwords Progress.stands_fresh reports_fresh hdistinct
  refine ⟨{ noted with command := rest }, ?_, ⟨hnoted.once, hnoted.chunkBytes, hnoted.config⟩, rfl,
    ?_⟩
  · rw [parse, List.tail_cons, hread]
    exact Progress.readAll_dashes hnext rest
  · rintro config program args - rfl hprogram hchunk
    generalize hoptions : { noted with command := program :: args } = options at hchunk ⊢
    have hmerges := options.merges_override config
    obtain ⟨hcommand, hargs⟩ := hmerges.command program args (by rw [← hoptions])
    have hvalid : (options.override config).Valid := by
      refine ⟨?_, fun text htext => ?_⟩
      · rw [hmerges.readChunkBytes]
        exact Nat.pos_of_ne_zero hchunk
      · rw [hcommand, Option.some.injEq] at htext
        exact htext ▸ hprogram
    refine ⟨_, _, apply_eq_ok_iff.mpr ⟨hmerges, hvalid⟩, by rw [Command.ofConfig, hcommand], ?_⟩
    rw [hargs]

/-- Every option in another spelling, and a command whose arguments look like options. -/
theorem command_behind_dashes_like_options :
    let said : List Said := [.chunkBytes 7, .config ['x', '='], .once]
    let words : List Text := ["--chunk-bytes", "007", "-c", "x=", "--once"]
    let rest : List Text := ["run", "--once", "", "--", "-c"]
    Said.AllSpelled said words ∧ (said.map Said.known).Nodup ∧
      ∃ options applied command,
        parse ("benchworker".toList :: (words ++ "--".toList :: rest)) = .ok options ∧
        options.once = true ∧ options.chunkBytes = some 7 ∧ options.config = some ['x', '='] ∧
        options.apply {} = .ok applied ∧ Command.ofConfig applied = .ok command ∧
        command.program :: command.args = rest := by
  intro said words rest
  have hwords : Said.AllSpelled said words :=
    .cons (.apart (@Said.ByValue.chunkBytes 7 2 (by decide))) <|
      .cons (.letter (.config (by decide) (by decide))) <| .cons .once .nil
  have hdistinct : (said.map Said.known).Nodup := by decide
  obtain ⟨options, hparse, hreports, -, hcommand⟩ :=
    command_behind_dashes hwords hdistinct "benchworker" rest
  have hchunk : options.chunkBytes = some 7 := (hreports.chunkBytes 7).mpr (by decide)
  obtain ⟨applied, command, happly, hof, hrest⟩ := hcommand {} "run" ["--once", "", "--", "-c"]
    Config.valid_default rfl (Config.isBlank_eq_false_iff.mp rfl) (by rw [hchunk]; decide)
  exact ⟨hwords, hdistinct, options, applied, command, hparse, hreports.once.mpr (by decide),
    hchunk, (hreports.config _).mpr (by decide), happly, hof, hrest⟩

end BenchRelay.Options
