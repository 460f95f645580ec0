import BenchRelay.Proofs.ChildRun
import BenchRelay.Worker

/-!
# Every configuration that is used is valid

A configuration is judged twice, when it is loaded and when the command line has had its say, so
what a command is made of is always valid, whatever the file and the command line. The command line
puts its command and arguments in the place of the loaded ones as one, and its number of bytes in
the place of the loaded one, and leaves everything else. A valid configuration asks for at least
one byte in every read, which is why no output of a child is lost.
-/

namespace BenchRelay

/-- The only file of a directory is found by its name. -/
theorem Files.find?_onlyFile (content : Bytes) :
    Files.find? { nodes := [([['c']], .file content)], workingDirectory := [] } ['c'] =
      some (.file content) := by cbv

namespace Config

/-- What makes a configuration fit for use. -/
structure Valid (config : Config) : Prop where
  /-- A read takes at least one byte. -/
  reads : 0 < config.readChunkBytes
  /-- A command has a character without the property White_Space. -/
  command : ∀ command, config.command = some command → ∃ c ∈ command, c.toNat ∉ whiteSpace

theorem isBlank_eq_false_iff {text : Text} :
    text.isBlank = false ↔ ∃ c ∈ text, c.toNat ∉ whiteSpace := by
  simp [Text.isBlank, isBlankChar]

theorem flaw?_eq_none_iff {config : Config} : config.flaw? = none ↔ config.Valid := by
  obtain ⟨command, args, directory, environment, readChunkBytes⟩ := config
  constructor
  · intro h
    unfold flaw? at h
    split at h
    · contradiction
    · next hreads =>
      refine ⟨Nat.pos_of_ne_zero hreads, ?_⟩
      rintro text rfl
      by_cases hblank : text.isBlank
      · simp [hblank] at h
      · exact isBlank_eq_false_iff.mp (by simpa using hblank)
  · rintro ⟨hreads, hcommand⟩
    rw [flaw?, if_neg (Nat.ne_of_gt hreads)]
    cases command with
    | none => rfl
    | some text =>
      have hblank := isBlank_eq_false_iff.mpr (hcommand text rfl)
      simp [hblank]

theorem validated_eq_ok_iff {config result : Config} :
    config.validated = .ok result ↔ config.Valid ∧ result = config := by
  rw [← flaw?_eq_none_iff, validated]
  cases config.flaw? <;> simp [eq_comm]

theorem validated_of_valid {config : Config} (h : config.Valid) : config.validated = .ok config :=
  validated_eq_ok_iff.mpr ⟨h, rfl⟩

theorem validated_of_not_valid {config : Config} (h : ¬ config.Valid) :
    ∃ flaw, config.validated = .error (.invalid flaw) := by
  rw [← flaw?_eq_none_iff] at h
  obtain ⟨flaw, hflaw⟩ := Option.ne_none_iff_exists'.mp h
  exact ⟨flaw, by rw [validated, hflaw]⟩

theorem valid_default : Valid {} := ⟨by decide, by simp⟩

/-- A file stands at a path, and says a configuration. -/
def StandsAt (files : Files) (path : Text) (config : Config) : Prop :=
  ∃ node text, files.find? path = some node ∧ readText path node = .ok text ∧
    parse? text = some config

theorem load_of_standsAt {files : Files} {path : Text} {config : Config}
    (h : StandsAt files path config) : load files path = (config.validated, []) := by
  obtain ⟨node, text, hnode, htext, hparse⟩ := h
  simp only [load, hnode, ofFile, htext, hparse, Bind.bind, Except.bind]

/-- What is loaded is valid: all defaults where there is no file, or what the file says. -/
theorem load_eq_ok_iff {files : Files} {path : Text} {config : Config} :
    (load files path).1 = .ok config ↔
      config.Valid ∧ (files.find? path = none ∧ config = {} ∨ StandsAt files path config) := by
  cases hnode : files.find? path with
  | none =>
    have hload : (load files path).1 = .ok {} := by rw [load, hnode]
    rw [hload, Except.ok.injEq]
    constructor
    · rintro rfl
      exact ⟨valid_default, .inl ⟨rfl, rfl⟩⟩
    · rintro ⟨-, ⟨-, rfl⟩ | ⟨_, _, hsome, -⟩⟩
      · rfl
      · rw [hnode] at hsome
        contradiction
  | some node =>
    constructor
    · intro h
      have hfile : ofFile path node = .ok config := by simpa only [load, hnode] using h
      cases htext : readText path node with
      | error error => simp [ofFile, htext, Bind.bind, Except.bind] at hfile
      | ok text =>
        cases hparse : parse? text with
        | none => simp [ofFile, htext, hparse, Bind.bind, Except.bind] at hfile
        | some said =>
          simp only [ofFile, htext, hparse, Bind.bind, Except.bind] at hfile
          obtain ⟨hvalid, rfl⟩ := validated_eq_ok_iff.mp hfile
          exact ⟨hvalid, .inr ⟨node, text, hnode, htext, hparse⟩⟩
    · rintro ⟨hvalid, ⟨hnone, -⟩ | hstands⟩
      · contradiction
      · rw [load_of_standsAt hstands]
        exact validated_of_valid hvalid

end Config

namespace Options

/-- What a configuration becomes where the command line has its say. -/
structure Merges (options : Options) (config merged : Config) : Prop where
  /-- A command on the command line replaces the command together with all its arguments. -/
  command : ∀ program args, options.command = program :: args →
    merged.command = some program ∧ merged.args = args
  /-- Without one both stay. -/
  noCommand : options.command = [] → merged.command = config.command ∧ merged.args = config.args
  readChunkBytes : merged.readChunkBytes = options.chunkBytes.getD config.readChunkBytes
  directory : merged.directory = config.directory
  environment : merged.environment = config.environment

theorem merges_override (options : Options) (config : Config) :
    options.Merges config (options.override config) := by
  obtain ⟨_, _, chunkBytes, command⟩ := options
  constructor <;> cases command <;> cases chunkBytes <;> simp [override]

theorem Merges.eq_override {options : Options} {config merged : Config}
    (h : options.Merges config merged) : merged = options.override config := by
  have h' := merges_override options config
  have hcommand : merged.command = (options.override config).command ∧
      merged.args = (options.override config).args := by
    cases hoptions : options.command with
    | nil =>
      obtain ⟨hleft, hleft'⟩ := h.noCommand hoptions
      obtain ⟨hright, hright'⟩ := h'.noCommand hoptions
      exact ⟨hleft.trans hright.symm, hleft'.trans hright'.symm⟩
    | cons program args =>
      obtain ⟨hleft, hleft'⟩ := h.command program args hoptions
      obtain ⟨hright, hright'⟩ := h'.command program args hoptions
      exact ⟨hleft.trans hright.symm, hleft'.trans hright'.symm⟩
  rw [Config.mk.injEq]
  exact ⟨hcommand.1, hcommand.2, h.directory.trans h'.directory.symm,
    h.environment.trans h'.environment.symm, h.readChunkBytes.trans h'.readChunkBytes.symm⟩

/-- The command line is accepted exactly where what it makes of the configuration is valid. -/
theorem apply_eq_ok_iff {options : Options} {config result : Config} :
    options.apply config = .ok result ↔ options.Merges config result ∧ result.Valid := by
  rw [apply, Config.validated_eq_ok_iff]
  constructor
  · rintro ⟨hvalid, rfl⟩
    exact ⟨merges_override options config, hvalid⟩
  · rintro ⟨hmerges, hvalid⟩
    obtain rfl := hmerges.eq_override
    exact ⟨hvalid, rfl⟩

/-- The command line has nothing more to say about what it already had its say on. -/
theorem Merges.again {options : Options} {config merged : Config}
    (h : options.Merges config merged) : options.Merges merged merged where
  command := h.command
  noCommand _ := ⟨rfl, rfl⟩
  readChunkBytes := by
    rw [h.readChunkBytes]
    cases options.chunkBytes <;> rfl
  directory := rfl
  environment := rfl

/-- There is a command unless neither side gives one. -/
theorem Merges.command_eq_none_iff {options : Options} {config merged : Config}
    (h : options.Merges config merged) :
    merged.command = none ↔ config.command = none ∧ options.command = [] := by
  cases hoptions : options.command with
  | nil => simp [(h.noCommand hoptions).1]
  | cons program args => simp [(h.command program args hoptions).1]

end Options

namespace Command

/-- A command says all that its configuration does. -/
theorem ofConfig_eq_ok_iff {config : Config} {command : Command} :
    ofConfig config = .ok command ↔ config =
      { command := some command.program
        args := command.args
        directory := command.directory
        environment := command.environment
        readChunkBytes := command.readChunkBytes } := by
  obtain ⟨_ | program, args, directory, environment, readChunkBytes⟩ := config
  · simp [ofConfig]
  · obtain ⟨program', args', directory', environment', readChunkBytes'⟩ := command
    simp [ofConfig]

/-- Reads of at least one byte bring all of the output. -/
theorem delivers_readsOf {size : ℕ} (hsize : 0 < size) (output : Bytes) :
    Delivers size output (readsOf size output) := by
  fun_induction readsOf size output with
  | case1 output h =>
    obtain rfl : output = [] := h.resolve_left (Nat.ne_of_gt hsize)
    exact .finished
  | case2 output h _ ih =>
    have hnonempty : output.take size ≠ [] := by
      simp [List.take_eq_nil_iff, not_or.mp h]
    have hboth := Delivers.bytes hnonempty (List.length_take_le size output) ih
    rwa [List.take_append_drop] at hboth

theorem ofConfig_eq_error_iff {config : Config} :
    ofConfig config = .error .missingCommand ↔ config.command = none := by
  cases hcommand : config.command <;> simp [ofConfig, hcommand]

/-- A command from a valid configuration has a name to be found by, and its reads bring all that a
child of it prints. -/
structure Sound (command : Command) : Prop where
  program : ∃ c ∈ command.program, c.toNat ∉ whiteSpace
  readChunkBytes : 0 < command.readChunkBytes
  reads : ∀ completion child, command.started completion = .started child →
    Delivers command.readChunkBytes completion.output child.reads

theorem sound_of_valid {config : Config} (h : config.Valid) {command : Command}
    (hcommand : ofConfig config = .ok command) : command.Sound := by
  obtain rfl := ofConfig_eq_ok_iff.mp hcommand
  refine ⟨h.command _ rfl, h.reads, fun completion child hchild => ?_⟩
  unfold started at hchild
  split at hchild
  · contradiction
  · obtain rfl := Launch.started.inj hchild
    exact delivers_readsOf h.reads completion.output

end Command

namespace Worker

/-- Whatever the files and the command line, only a valid configuration is loaded, and a file that
says another one is refused even where the command line would mend it. What the command line makes
of a configuration is accepted exactly if it is valid, and accepted again as it is. A command comes
of it unless neither side gives one, and then it is as the configuration says, and sound. -/
theorem configurations_stay_valid (startup : Startup) (options : Options) :
    let path := configPath startup options
    let loaded := (Config.load startup.files path).1
    (∀ config, loaded = .ok config ↔ config.Valid ∧
      (startup.files.find? path = none ∧ config = {} ∨
        Config.StandsAt startup.files path config)) ∧
    (∀ config, Config.StandsAt startup.files path config → ¬ config.Valid →
      ∃ flaw, loaded = .error (.invalid flaw) ∧
        (prepare startup options).1 = .error (.config (.invalid flaw))) ∧
    (∀ config, ∃ merged, options.Merges config merged ∧
      ∀ result, options.apply config = .ok result ↔ merged.Valid ∧ result = merged) ∧
    (∀ config result, options.apply config = .ok result → options.apply result = .ok result) ∧
    ∀ config result, loaded = .ok config → options.apply config = .ok result →
      (Command.ofConfig result = .error .missingCommand ↔
        config.command = none ∧ options.command = []) ∧
      (¬ (config.command = none ∧ options.command = []) →
        ∃ command : Command, (prepare startup options).1 = .ok command ∧ command.Sound ∧
          result =
            { command := some command.program
              args := command.args
              directory := command.directory
              environment := command.environment
              readChunkBytes := command.readChunkBytes }) := by
  intro path loaded
  have hprepare : (prepare startup options).1 =
      (loaded.mapError .config).bind (commandOf options) := rfl
  refine ⟨fun config => Config.load_eq_ok_iff, ?refused, ?accepted, ?again, ?command⟩
  case refused =>
    intro config hstands hinvalid
    obtain ⟨flaw, hflaw⟩ := Config.validated_of_not_valid hinvalid
    have hloaded : loaded = .error (.invalid flaw) := by
      rw [show loaded = _ from congrArg Prod.fst (Config.load_of_standsAt hstands), hflaw]
    exact ⟨flaw, hloaded, by rw [hprepare, hloaded]; rfl⟩
  case accepted =>
    intro config
    refine ⟨options.override config, options.merges_override config, fun result => ?_⟩
    rw [Options.apply, Config.validated_eq_ok_iff]
  case again =>
    intro config result happly
    obtain ⟨hmerges, hvalid⟩ := Options.apply_eq_ok_iff.mp happly
    exact Options.apply_eq_ok_iff.mpr ⟨hmerges.again, hvalid⟩
  case command =>
    intro config result hloaded happly
    obtain ⟨hmerges, hvalid⟩ := Options.apply_eq_ok_iff.mp happly
    refine ⟨Command.ofConfig_eq_error_iff.trans hmerges.command_eq_none_iff, fun hgiven => ?_⟩
    rw [← hmerges.command_eq_none_iff, ← Command.ofConfig_eq_error_iff] at hgiven
    obtain ⟨command, hcommand⟩ : ∃ command, Command.ofConfig result = .ok command := by
      cases hprogram : result.command with
      | none => exact absurd (Command.ofConfig_eq_error_iff.mpr hprogram) hgiven
      | some program => exact ⟨_, by rw [Command.ofConfig, hprogram]⟩
    refine ⟨command, ?_, Command.sound_of_valid hvalid hcommand,
      Command.ofConfig_eq_ok_iff.mp hcommand⟩
    rw [hprepare, hloaded]
    simp only [Except.mapError, Except.bind, commandOf, Bind.bind, happly, hcommand]

/-- A file says a blank command, and the command line gives another one. -/
theorem configurations_stay_valid_blank_command :
    let content : Text := "[payload]\ncommand = \"\\u3000\"\nargs = [\"stale\"]\n"
    let startup : Startup :=
      { arguments := [], environment := [], stamp := []
        files := { nodes := [([['c']], .file content.utf8)], workingDirectory := [] } }
    let options : Options := { config := some ['c'], command := [['x'], ['y']] }
    ∃ flaw, (prepare startup options).1 = .error (.config (.invalid flaw)) ∧
      options.apply { command := some ['z'], args := ["stale".toList], directory := some ['d'] } =
        .ok { command := some ['x'], args := [['y']], directory := some ['d'] } := by
  intro content startup options
  obtain ⟨-, hrefused, haccepted, -⟩ := configurations_stay_valid startup options
  have hstands : Config.StandsAt startup.files (configPath startup options)
      { command := some ['\u3000'], args := ["stale".toList] } :=
    ⟨.file content.utf8, content, Files.find?_onlyFile _, by decide +kernel, by decide +kernel⟩
  have hinvalid : ¬ Config.Valid { command := some ['\u3000'], args := ["stale".toList] } := by
    rw [← Config.flaw?_eq_none_iff]
    decide
  obtain ⟨flaw, -, hprepare⟩ := hrefused _ hstands hinvalid
  refine ⟨flaw, hprepare, ?_⟩
  obtain ⟨merged, hmerges, hresult⟩ :=
    haccepted { command := some ['z'], args := ["stale".toList], directory := some ['d'] }
  obtain rfl := hmerges.eq_override
  exact (hresult _).mpr ⟨Config.flaw?_eq_none_iff.mp rfl, rfl⟩

end Worker

end BenchRelay
