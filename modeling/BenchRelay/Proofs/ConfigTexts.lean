import BenchRelay.Proofs.ConfigFiles

/-!
# A file for every configuration

A text of any characters can be written between quotes, and any number in hexadecimal digits. So
every valid configuration has a file that it is loaded from: one with all its tables, and all its
items under their headers.
-/

namespace BenchRelay

namespace Toml

/-! ### Digits -/

/-- The last digits of a number in base sixteen. -/
def baseSixteen : (width n : ℕ) → Text
  | 0, _ => []
  | width + 1, n => baseSixteen width (n / 16) ++ [(n % 16).digitChar]

theorem digitValue_digitChar : ∀ n < 16, digitValue n.digitChar = n := by decide

theorem hexValue?_digitChar : ∀ n < 16, hexValue? n.digitChar = some (digitValue n.digitChar) := by
  decide

theorem isHexDigit_digitChar : ∀ n < 16, isHexDigit n.digitChar := by decide

theorem length_baseSixteen (width n : ℕ) : (baseSixteen width n).length = width := by
  induction width generalizing n with
  | zero => rfl
  | succ width ih => rw [baseSixteen, List.length_append, ih, List.length_singleton]

theorem exists_digitChar {width n : ℕ} {c : Char} (h : c ∈ baseSixteen width n) :
    ∃ d < 16, c = d.digitChar := by
  induction width generalizing n with
  | zero => simp [baseSixteen] at h
  | succ width ih =>
    rcases List.mem_append.mp h with h | h
    · exact ih h
    · exact ⟨n % 16, Nat.mod_lt n (by decide), List.mem_singleton.mp h⟩

theorem ofDigits_baseSixteen {width n : ℕ} (h : n < 16 ^ width) :
    ofDigits 16 (baseSixteen width n) = n := by
  induction width generalizing n with
  | zero =>
    obtain rfl : n = 0 := by simpa using h
    rfl
  | succ width ih =>
    have hmore : n / 16 < 16 ^ width := Nat.div_lt_of_lt_mul (by rwa [Nat.pow_succ'] at h)
    have hlast := digitValue_digitChar (n % 16) (Nat.mod_lt n (by decide))
    rw [baseSixteen, ofDigits, List.foldl_append]
    change ofDigits 16 (baseSixteen width (n / 16)) * 16 + digitValue (n % 16).digitChar = n
    rw [ih hmore, hlast]
    exact Nat.div_add_mod' n 16

theorem grouped_of_all {isDigit : Char → Bool} {digits : Text} (h : ∀ c ∈ digits, isDigit c)
    (hsome : digits ≠ []) : Grouped isDigit digits digits := by
  induction digits with
  | nil => contradiction
  | cons c digits ih =>
    rw [List.forall_mem_cons] at h
    cases digits with
    | nil => exact .last h.1
    | cons d digits => exact .next h.1 (ih h.2 (List.cons_ne_nil d digits))

/-! ### Texts, keys and values -/

/-- A character is written with eight digits of its code point. -/
theorem escape_baseSixteen (c : Char) : Escape c ('U' :: baseSixteen 8 c.toNat) := by
  have hvalues : (baseSixteen 8 c.toNat).mapM hexValue? =
      some ((baseSixteen 8 c.toNat).map digitValue) := by
    refine Config.mapM_eq_some_map fun d hd => ?_
    obtain ⟨n, hn, rfl⟩ := exists_digitChar hd
    exact hexValue?_digitChar n hn
  refine .code (by simp [widths] : ('U', 8) ∈ widths) (length_baseSixteen 8 _) hvalues ?_
  rw [List.foldl_map]
  exact ofDigits_baseSixteen c.val.toNat_lt

/-- Every text can be written between two quotes. -/
theorem exists_basic (text : Text) : ∃ written, Basic text written := by
  induction text with
  | nil => exact ⟨[], .nil⟩
  | cons c text ih =>
    obtain ⟨written, hwritten⟩ := ih
    exact ⟨_, .escape (escape_baseSixteen c) hwritten⟩

section

variable {limit depth : ℕ}

theorem exists_pathText (key : Text) : ∃ name, PathText (limit + 1) ⟨[], key⟩ name := by
  obtain ⟨written, hwritten⟩ := exists_basic key
  exact ⟨_, .last (.basic hwritten) blank_nil⟩

theorem exists_written_string (text : Text) :
    ∃ written, Written limit depth (.value (.string text)) written := by
  obtain ⟨written, hwritten⟩ := exists_basic text
  exact ⟨_, .string (.basic hwritten)⟩

theorem exists_written_strings (texts : List Text) :
    ∃ written, Written limit (depth + 1) (.value (.array (texts.map .string))) written := by
  suffices h : ∃ written, Written limit depth (.items (texts.map .string)) written by
    obtain ⟨written, hwritten⟩ := h
    exact ⟨_, .array .nil hwritten⟩
  induction texts with
  | nil => exact ⟨_, .noItems⟩
  | cons text texts ih =>
    obtain ⟨first, hfirst⟩ := exists_written_string text
    obtain ⟨rest, hrest⟩ := ih
    exact ⟨_, .item hfirst .nil .nil hrest⟩

theorem exists_written_integer (n : ℕ) :
    ∃ written, Written limit depth (.value (.integer n)) written := by
  have hlt : n < 16 ^ (n + 1) :=
    (Nat.lt_pow_self (by decide)).trans (Nat.pow_lt_pow_succ (by decide))
  have hdigits : Grouped isHexDigit (baseSixteen (n + 1) n) (baseSixteen (n + 1) n) := by
    refine grouped_of_all (fun c hc => ?_) fun hnil => ?_
    · obtain ⟨d, hd, rfl⟩ := exists_digitChar hc
      exact isHexDigit_digitChar d hd
    · simpa [hnil] using length_baseSixteen (n + 1) n
  have htext := IntegerText.based (by simp [bases] : ('x', 16, isHexDigit) ∈ bases) hdigits
  rw [ofDigits_baseSixteen hlt] at htext
  exact ⟨_, .scalar (.integer htext)⟩

end

end Toml

namespace Config

open Toml

/-! ### All items of a configuration -/

/-- The last key of an item. -/
def Item.name : Item → Text
  | command => "command".toList
  | args => "args".toList
  | directory => "cwd".toList
  | environment name => name
  | readChunkBytes => "read_chunk_bytes".toList

/-- An item has a value to be said. -/
def Item.HasValue (config : Config) (item : Item) : Bool := (item.value? config).isSome

/-- The entries of those items that have a value. -/
def itemStatements (config : Config) (items : List Item) : List Statement :=
  items.filterMap fun item => (item.value? config).map fun value => .entry ⟨[], item.name⟩ value

/-- The header of the table `payload`. -/
def payloadHeader : Path := ⟨[], "payload".toList⟩

/-- The header of the table of the environment. -/
def environmentHeader : Path := ⟨["payload".toList], "env".toList⟩

/-- The header of the table `output`. -/
def outputHeader : Path := ⟨[], "output".toList⟩

/-- The variables of a configuration as items. -/
def variableItems (config : Config) : List Item :=
  (config.environment.map Prod.fst).map .environment

/-- All tables of a configuration with all their items. -/
def allStatements (config : Config) : List Statement :=
  .header payloadHeader :: (itemStatements config [.command, .args, .directory] ++
    .header environmentHeader :: (itemStatements config (variableItems config) ++
      .header outputHeader :: itemStatements config [.readChunkBytes]))

variable {config : Config}

theorem Sorted.itemStatements {header : Path} {items more : List Item}
    {statements others : List Statement}
    (htable : ∀ item ∈ items, header.keys ++ [item.name] = item.keys)
    (h : Sorted config (some header) statements more others) :
    Sorted config (some header) (itemStatements config items ++ statements)
      (items.filter (·.HasValue config) ++ more) others := by
  induction items with
  | nil => exact h
  | cons item items ih =>
    rw [List.forall_mem_cons] at htable
    have hrest := ih htable.2
    cases hvalue : item.value? config with
    | none => simpa [Config.itemStatements, Item.HasValue, hvalue] using hrest
    | some value =>
      simpa [Config.itemStatements, Item.HasValue, hvalue] using .item htable.1 hvalue hrest

/-- All items that a configuration may have. -/
def allItems (config : Config) : List Item :=
  [.command, .args, .directory] ++ (variableItems config ++ [.readChunkBytes])

theorem nodup_allItems (hordered : config.environment.Ordered) : (allItems config).Nodup := by
  have hvariables : (variableItems config).Nodup :=
    hordered.nodup.map fun _ _ h => Item.environment.inj h
  have hname {item : Item} (h : item ∈ variableItems config) :
      ∃ name, item = .environment name := by
    obtain ⟨name, -, rfl⟩ := List.mem_map.mp h
    exact ⟨name, rfl⟩
  rw [allItems, List.nodup_append, List.nodup_append]
  refine ⟨by decide, ⟨hvariables, by decide, ?_⟩, ?_⟩
  · rintro item h other hother rfl
    obtain ⟨name, rfl⟩ := hname h
    simp at hother
  · rintro item h other hother rfl
    rcases List.mem_append.mp hother with hother | hother
    · obtain ⟨name, rfl⟩ := hname hother
      simp at h
    · obtain rfl := List.mem_singleton.mp hother
      simp at h

/-- An item that has a value is one of all. -/
theorem mem_allItems {item : Item} (h : item.HasValue config) : item ∈ allItems config := by
  cases item with
  | environment name =>
    obtain ⟨value, hvalue⟩ := Option.isSome_iff_exists.mp h
    obtain ⟨text, htext, -⟩ := Option.map_eq_some_iff.mp hvalue
    have hmem : Item.environment name ∈ variableItems config :=
      List.mem_map_of_mem (List.mem_map_of_mem (mem_of_lookup_eq_some htext))
    simp [allItems, hmem]
  | _ => simp [allItems]

/-- An item differs from its default only if it has a value. -/
theorem hasValue_of_differs {item : Item} (h : item.value? config ≠ item.value? {}) :
    item.HasValue config := by
  refine Option.isSome_iff_ne_none.mpr fun hnone => h ?_
  cases item <;> contradiction

theorem says_allStatements (hordered : config.environment.Ordered) :
    Says config (allStatements config)
      [.header payloadHeader, .header environmentHeader, .header outputHeader] := by
  have hpayload : ∀ item ∈ [Item.command, .args, .directory],
      payloadHeader.keys ++ [item.name] = item.keys := by decide
  have hvariables : ∀ item ∈ variableItems config,
      environmentHeader.keys ++ [item.name] = item.keys := by
    rw [variableItems, List.forall_mem_map]
    exact fun _ _ => rfl
  have hreads : ∀ item ∈ [Item.readChunkBytes], outputHeader.keys ++ [item.name] = item.keys := by
    decide
  have hlast := Sorted.itemStatements hreads (.nil : Sorted config _ [] [] [])
  rw [List.append_nil, List.append_nil] at hlast
  have hsorted : Sorted config none (allStatements config) _ _ :=
    .header (.inl (by decide)) (.itemStatements hpayload
      (.header (.inl (by decide)) (.itemStatements hvariables
        (.header (.inl (by decide)) hlast))))
  rw [← List.filter_append, ← List.filter_append] at hsorted
  exact ⟨_, hsorted, (nodup_allItems hordered).filter _, fun item h =>
    List.mem_filter.mpr ⟨mem_allItems (hasValue_of_differs h), hasValue_of_differs h⟩⟩

theorem exists_written_value {limit depth : ℕ} {item : Item} {value : Value}
    (h : item.value? config = some value) :
    ∃ written, Written limit (depth + 1) (.value value) written := by
  cases item with
  | command | directory | environment =>
    obtain ⟨text, -, rfl⟩ := Option.map_eq_some_iff.mp h
    exact exists_written_string text
  | args =>
    obtain rfl := Option.some.inj h
    exact exists_written_strings config.args
  | readChunkBytes =>
    obtain rfl := Option.some.inj h
    exact exists_written_integer config.readChunkBytes

theorem exists_linesText_items {limit : ℕ} {statements : List Statement} (items : List Item)
    (hrest : ∃ rest, LinesText (limit + 1) statements rest) :
    ∃ text, LinesText (limit + 1) (itemStatements config items ++ statements) text := by
  induction items with
  | nil => exact hrest
  | cons item items ih =>
    cases hvalue : item.value? config with
    | none => simpa [itemStatements, hvalue] using ih
    | some value =>
      obtain ⟨rest, hlines⟩ := ih
      obtain ⟨name, hname⟩ := exists_pathText item.name
      obtain ⟨written, hwritten⟩ := exists_written_value hvalue
      have hentry := LinesText.entry hname hwritten hlines
      exact ⟨_, by simpa [itemStatements, hvalue] using hentry⟩

theorem exists_linesText_header {limit : ℕ} {statements : List Statement} {path : Path}
    {name : Text} (hkey : PathText limit path name)
    (hrest : ∃ rest, LinesText limit statements rest) :
    ∃ text, LinesText limit (.header path :: statements) text := by
  obtain ⟨rest, hrest⟩ := hrest
  exact ⟨_, .header hkey hrest⟩

theorem exists_linesText_allStatements (config : Config) :
    ∃ text, LinesText depthLimit (allStatements config) text := by
  have hnone : ∃ rest, LinesText depthLimit [] rest := ⟨[], linesText_nil⟩
  have hlast : ∃ text, LinesText depthLimit (itemStatements config [.readChunkBytes] ++ []) text :=
    exists_linesText_items _ hnone
  rw [List.append_nil] at hlast
  have hpayload : PathText depthLimit payloadHeader "payload".toList :=
    pathText_of_all "payload".toList rfl rfl
  have henvironment : PathText depthLimit environmentHeader "payload.env".toList :=
    pathText_environment
  have houtput : PathText depthLimit outputHeader "output".toList :=
    pathText_of_all "output".toList rfl rfl
  exact exists_linesText_header hpayload (exists_linesText_items _
    (exists_linesText_header henvironment (exists_linesText_items _
      (exists_linesText_header houtput hlast))))

/-- Every valid configuration can be written to a file that it is loaded from. -/
theorem exists_file (hvalid : config.Valid) (hordered : config.environment.Ordered)
    (hlimit : config.readChunkBytes ≤ chunkLimit) :
    ∃ text : Text, ∀ (files : Files) (path : Text), files.find? path = some (.file text.utf8) →
      load files path = (.ok config, []) := by
  obtain ⟨text, htext⟩ := exists_linesText_allStatements config
  have hdistinct :
      Distinct [.header payloadHeader, .header environmentHeader, .header outputHeader] := by
    refine ⟨?_, by decide, by decide, by decide⟩
    simp only [List.forall_mem_cons]
    exact ⟨.header _, .header _, .header _, nofun⟩
  have hparse : parse? text = some config :=
    parse?_eq (says_allStatements hordered) hordered hlimit (.inl hdistinct) (by simp [InRange])
      (.plain htext)
  exact ⟨text, fun files path hfile => load_of_parse? hvalid hparse hfile⟩

end Config

end BenchRelay
