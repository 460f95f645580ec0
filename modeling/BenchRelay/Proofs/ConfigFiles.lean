import BenchRelay.Proofs.ConfigItems
import BenchRelay.Proofs.MessageLines
import BenchRelay.Proofs.TomlDocuments
import BenchRelay.Proofs.ValidConfigs

/-!
# Configuration files read back

A file that says a valid configuration is loaded as just that configuration, whichever of its texts
is chosen, in whatever order the items come, and whatever else stands in it. What the reader sets
limits to are the other values: their depth, the parts of dotted keys, and their numbers.
-/

namespace BenchRelay

namespace Toml

/-! ### Plain lines -/

section Lines

variable {limit : ℕ} {statements : List Statement} {path : Path} {name written rest : Text}
  {value : Value}

theorem keyText_of_all (key : Text) (h : key.all isBareKeyChar) (hsome : key.isEmpty = false) :
    KeyText key key :=
  .bare (List.all_eq_true.mp h) (List.isEmpty_eq_false_iff.mp hsome)

/-- A bare key in front of its sign or the end of its header. -/
theorem pathText_of_all (key : Text) (h : key.all isBareKeyChar) (hsome : key.isEmpty = false) :
    PathText (limit + 1) ⟨[], key⟩ key := by
  have hpath : PathText (limit + 1) ⟨[], key⟩ (key ++ []) :=
    .last (keyText_of_all key h hsome) blank_nil
  rwa [List.append_nil] at hpath

theorem whole_one : Whole ['1'] ['1'] := ⟨.last rfl, by decide⟩

theorem written_one {depth : ℕ} : Written limit depth (.value (.integer 1)) ['1'] := by
  have hdigit : IntegerText (ofDigits 10 ['1']) ['1'] := .decimal .none whole_one
  exact .scalar (.integer hdigit)

theorem linesText_nil : LinesText limit [] [] := .done .nil (.blank blank_nil)

/-- An entry on a line of its own. -/
theorem LinesText.entry (hkey : PathText limit path name)
    (hvalue : Written limit limit (.value value) written)
    (hrest : LinesText limit statements rest) :
    LinesText limit (.entry path value :: statements) (name ++ '=' :: written ++ '\n' :: rest) := by
  have hentry := StatementText.entry hkey blank_nil hvalue (.blank blank_nil)
  simpa using LinesText.next .nil hentry .lf hrest

/-- A header on a line of its own. -/
theorem LinesText.header (hkey : PathText limit path name)
    (hrest : LinesText limit statements rest) :
    LinesText limit (.header path :: statements) ('[' :: name ++ ']' :: '\n' :: rest) := by
  have hheader := StatementText.header blank_nil hkey (.blank blank_nil)
  simpa using LinesText.next .nil hheader .lf hrest

end Lines

end Toml

namespace Config

open Toml

section

variable {config : Config} {statements others : List Statement} {text path : Text} {files : Files}

theorem parse?_eq (hitems : Says config statements others) (hordered : config.environment.Ordered)
    (hlimit : config.readChunkBytes ≤ chunkLimit)
    (hothers : Distinct others ∨ (build? others).isSome) (hrange : InRange others)
    (htext : DocumentText depthLimit statements text) : parse? text = some config := by
  have hdocument : ∃ document, build? others = some document :=
    hothers.elim Distinct.exists_build? Option.isSome_iff_exists.mp
  obtain ⟨document, hdocument⟩ := hdocument
  obtain ⟨table, hbuild, hconfig⟩ := hitems.ofDocument? hordered hlimit hdocument hrange
  simp only [parse?, document?, statements?_of_documentText htext, Option.bind_eq_bind,
    Option.bind_some, hbuild, hconfig]

theorem load_of_parse? (hvalid : config.Valid) (hparse : parse? text = some config)
    (hfile : files.find? path = some (.file text.utf8)) : load files path = (.ok config, []) := by
  have hread : readText path (.file text.utf8) = .ok text := by
    rw [readText, Utf8.decode?_utf8]
  have hstands : StandsAt files path config := ⟨_, text, hfile, hread, hparse⟩
  rw [load_of_standsAt hstands, validated_of_valid hvalid]

/-- A file that says a valid configuration is loaded as this configuration, however it is written
and whatever else it says, as long as that makes a document of its own. It does if no key is said
twice. -/
theorem load_reads_back (hvalid : config.Valid) (hordered : config.environment.Ordered)
    (hlimit : config.readChunkBytes ≤ chunkLimit) (hitems : Says config statements others)
    (hothers : Distinct others ∨ (build? others).isSome) (hrange : InRange others)
    (htext : DocumentText depthLimit statements text)
    (hfile : files.find? path = some (.file text.utf8)) : load files path = (.ok config, []) :=
  load_of_parse? hvalid (parse?_eq hitems hordered hlimit hothers hrange htext) hfile

end

/-! ### A file with an escape -/

section Escaped

/-- A command with an escape behind a variable of its environment and a key that means nothing. -/
def escapedFile : Text := "[payload.env]\nK=\"v\"\n[payload]\nextra=1\ncommand=\"\\u0078\"\n"

/-- The configuration that this file says. -/
def escapedConfig : Config := { command := some ['x'], environment := [(['K'], ['v'])] }

/-- The statements of this file. -/
def escapedStatements : List Statement :=
  [.header ⟨["payload".toList], "env".toList⟩, .entry ⟨[], ['K']⟩ (.string ['v']),
    .header ⟨[], "payload".toList⟩, .entry ⟨[], "extra".toList⟩ (.integer 1),
    .entry ⟨[], "command".toList⟩ (.string ['x'])]

/-- Those of them that do not say the configuration. -/
def escapedOthers : List Statement :=
  [.header ⟨["payload".toList], "env".toList⟩, .header ⟨[], "payload".toList⟩,
    .entry ⟨[], "extra".toList⟩ (.integer 1)]

theorem pathText_environment :
    PathText depthLimit ⟨["payload".toList], "env".toList⟩ "payload.env".toList :=
  .dotted (keyText_of_all "payload".toList rfl rfl) blank_nil blank_nil
    (pathText_of_all "env".toList rfl rfl)

theorem documentText_escapedFile : DocumentText depthLimit escapedStatements escapedFile := by
  have hv : Written depthLimit depthLimit (.value (.string ['v'])) "\"v\"".toList :=
    .string (.basic (.plain (by decide) (by decide) (by decide) .nil))
  have hescape : Escape 'x' "u0078".toList :=
    .code (by simp [widths] : ('u', 4) ∈ widths) rfl rfl rfl
  have hx : Written depthLimit depthLimit (.value (.string ['x'])) "\"\\u0078\"".toList :=
    .string (.basic (.escape hescape .nil))
  have hlines : LinesText depthLimit escapedStatements _ :=
    .header pathText_environment (.entry (pathText_of_all ['K'] rfl rfl) hv
      (.header (pathText_of_all "payload".toList rfl rfl)
        (.entry (pathText_of_all "extra".toList rfl rfl) written_one
          (.entry (pathText_of_all "command".toList rfl rfl) hx linesText_nil))))
  exact .plain hlines

theorem says_escapedConfig : Says escapedConfig escapedStatements escapedOthers := by
  have hsorted : Sorted escapedConfig none escapedStatements [.environment ['K'], .command]
      escapedOthers :=
    .header (.inl (by decide)) (.item rfl rfl
      (.header (.inl (by decide)) (.entry rfl (.item rfl rfl .nil))))
  refine ⟨_, hsorted, by decide, fun item hdiffers => ?_⟩
  cases item with
  | environment name =>
    by_cases hname : name = ['K']
    · simp [hname]
    · simp [Item.value?, escapedConfig, Environment.get?, hname] at hdiffers
  | _ => simp_all [Item.value?, escapedConfig]

theorem distinct_escapedOthers : Distinct escapedOthers := by
  refine ⟨?_, by decide, by decide, by decide⟩
  simp only [escapedOthers, List.forall_mem_cons]
  exact ⟨.header _, .header _, .entry _ _, nofun⟩

theorem load_reads_back_escapedFile :
    let files : Files := { nodes := [([['c']], .file escapedFile.utf8)], workingDirectory := [] }
    Says escapedConfig escapedStatements escapedOthers ∧ Distinct escapedOthers ∧
      DocumentText depthLimit escapedStatements escapedFile ∧
      load files ['c'] = (.ok escapedConfig, []) := by
  have hordered : escapedConfig.environment.Ordered := by
    simp [Environment.Ordered, escapedConfig]
  have hrange : InRange escapedOthers := by
    have hone : Value.inRange (.integer 1) := by decide
    simpa [InRange, escapedOthers] using hone
  exact ⟨says_escapedConfig, distinct_escapedOthers, documentText_escapedFile,
    load_reads_back (flaw?_eq_none_iff.mp rfl) hordered (by decide) says_escapedConfig
      (.inl distinct_escapedOthers) hrange documentText_escapedFile (Files.find?_onlyFile _)⟩

end Escaped

/-! ### Files past the limits of the reader -/

section Limits

/-- Arrays in one another. -/
def nested : ℕ → Value
  | 0 => .array []
  | n + 1 => .array [nested n]

/-- Their brackets. -/
def brackets : ℕ → Text
  | 0 => "[]".toList
  | n + 1 => '[' :: brackets n ++ [']']

theorem written_nested {limit : ℕ} (n : ℕ) :
    Written limit (n + 1) (.value (nested n)) (brackets n) := by
  induction n with
  | zero => exact .array .nil .noItems
  | succ n ih =>
    have harray := Written.array .nil (.lastItem ih .nil)
    rwa [List.append_nil] at harray

/-- A key of many parts. -/
def dotted (n : ℕ) : Path := ⟨List.replicate n ['x'], ['x']⟩

/-- Its parts, with a point between any two of them. -/
def points : ℕ → Text
  | 0 => ['x']
  | n + 1 => 'x' :: '.' :: points n

theorem pathText_dotted (n : ℕ) : PathText (n + 1) (dotted n) (points n) := by
  induction n with
  | zero => exact pathText_of_all ['x'] rfl rfl
  | succ n ih => exact .dotted (keyText_of_all ['x'] rfl rfl) blank_nil blank_nil ih

theorem floatText_overflow : FloatText false "1e400".toList := by
  have hdigits : Grouped Char.isDigit "400".toList "400".toList := .next rfl (.next rfl (.last rfl))
  have hpower : Exponent (ofDigits 10 "400".toList) "e400".toList := .power rfl .none hdigits
  have htext := FloatText.digits .none whole_one .none hpower (by decide)
  have hover : decimalInRange ['1'] 400 = false := by decide +kernel
  rw [decimalInRange_eq] at hover
  exact hover ▸ htext

/-- A line says the default configuration beside a key that means nothing, and is refused. -/
def Refused (path : Path) (value : Value) (line : Text) : Prop :=
  Says {} [.entry path value] [.entry path value] ∧ (build? [.entry path value]).isSome ∧
    DocumentText (depthLimit + 1) [.entry path value] line ∧
    load { nodes := [([['c']], .file line.utf8)], workingDirectory := [] } ['c'] =
      (.error (.parse ['c']), [])

theorem refused_of_parse? {path : Path} {value : Value} {name written : Text}
    (hkeys : Foreign path.keys) (hbuild : (build? [.entry path value]).isSome)
    (hkey : PathText (depthLimit + 1) path name)
    (hvalue : Written (depthLimit + 1) (depthLimit + 1) (.value value) written)
    (hparse : parse? (name ++ '=' :: written ++ ['\n']) = none) :
    Refused path value (name ++ '=' :: written ++ ['\n']) := by
  refine ⟨⟨[], .entry hkeys .nil, List.nodup_nil, fun item h => absurd rfl h⟩, hbuild,
    .plain (.entry hkey hvalue linesText_nil), ?_⟩
  rw [load, Files.find?_onlyFile]
  simp only [ofFile, readText, Utf8.decode?_utf8, hparse, Bind.bind, Except.bind]

/-- A value nested one deeper than the limit, a key of one part more, and a number that rounds to an
infinity are refused, although they mean nothing. -/
theorem past_limits_refused :
    Refused ⟨[], ['x']⟩ (nested 80) (['x'] ++ '=' :: brackets 80 ++ ['\n']) ∧
      Refused (dotted 80) (.integer 1) (points 80 ++ '=' :: ['1'] ++ ['\n']) ∧
      Refused ⟨[], ['x']⟩ (.float false) (['x'] ++ '=' :: "1e400".toList ++ ['\n']) := by
  have hx : PathText (depthLimit + 1) ⟨[], ['x']⟩ ['x'] := pathText_of_all ['x'] rfl rfl
  have hforeign (keys : List Text) : Foreign (['x'] :: keys) := Schema.follow_foreign keys
  refine ⟨?_, ?_, ?_⟩
  · exact refused_of_parse? (hforeign []) rfl hx (written_nested 80) (by decide +kernel)
  · exact refused_of_parse? (hforeign _) (by decide +kernel) (pathText_dotted 80) written_one
      (by decide +kernel)
  · exact refused_of_parse? (hforeign []) rfl hx (.scalar (.float floatText_overflow))
      (by decide +kernel)

end Limits

end Config

end BenchRelay
