import BenchRelay.Config.Document
import BenchRelay.Proofs.TomlStatements

/-!
# What a configuration file says

A file says a configuration item by item, in any order, each under the header of its table. Its
other statements are about keys that lead elsewhere, and make a document of their own together with
the headers of the configuration's tables. Whatever that document is, the items are found among its
tables, and what no item is there for has its default.
-/

namespace BenchRelay.Config

open BenchRelay.Toml

/-! ### Items -/

/-- What a file says of a configuration at a time. -/
inductive Item where
  | command
  | args
  | directory
  | environment (name : Text)
  | readChunkBytes
  deriving Repr, DecidableEq

namespace Item

/-- The keys of an item: those of its table, and its own. -/
def keys : Item → List Text
  | command => ["payload".toList, "command".toList]
  | args => ["payload".toList, "args".toList]
  | directory => ["payload".toList, "cwd".toList]
  | environment name => ["payload".toList, "env".toList, name]
  | readChunkBytes => ["output".toList, "read_chunk_bytes".toList]

/-- The value of an item in a configuration, if it has one. -/
def value? (config : Config) : Item → Option Value
  | command => config.command.map .string
  | args => some (.array (config.args.map .string))
  | directory => config.directory.map .string
  | environment name => (config.environment.get? name).map .string
  | readChunkBytes => some (.integer config.readChunkBytes)

theorem keys_injective : Function.Injective keys := by
  intro item other h
  cases item <;> cases other <;> simp_all [keys]

end Item

/-- Where the keys of the table `payload` lead to. -/
def payloadSchema (key : Text) : Schema :=
  if key = "command".toList ∨ key = "args".toList ∨ key = "cwd".toList then .item
  else if key = "env".toList then .table fun _ => .item
  else .foreign

/-- Where the keys of the table `output` lead to. -/
def outputSchema (key : Text) : Schema :=
  if key = "read_chunk_bytes".toList then .item else .foreign

/-- Where the keys of a configuration file lead to. -/
def topSchema (key : Text) : Schema :=
  if key = "payload".toList then .table payloadSchema
  else if key = "output".toList then .table outputSchema
  else .foreign

theorem payloadSchema_env : payloadSchema "env".toList = .table fun _ => .item := rfl

theorem topSchema_payload : topSchema "payload".toList = .table payloadSchema := rfl

theorem topSchema_output : topSchema "output".toList = .table outputSchema := rfl

/-- Keys that lead neither to an item nor to a table with items. -/
def Foreign (keys : List Text) : Prop := (Schema.table topSchema).follow keys = .foreign

/-- The tables with items. -/
def tables : List (List Text) :=
  [["payload".toList], ["payload".toList, "env".toList], ["output".toList]]

/-- The statements of a file under a header, sorted into the items that they say of a configuration
and the statements that are left without them. -/
inductive Sorted (config : Config) :
    Option Path → List Statement → List Item → List Statement → Prop
  | nil {header : Option Path} : Sorted config header [] [] []
  | item {header : Path} {key : Text} {value : Value} {item : Item} {items : List Item}
      {statements others : List Statement} (hkeys : header.keys ++ [key] = item.keys)
      (hvalue : item.value? config = some value)
      (h : Sorted config (some header) statements items others) :
      Sorted config (some header) (.entry ⟨[], key⟩ value :: statements) (item :: items) others
  | entry {header : Option Path} {path : Path} {value : Value} {items : List Item}
      {statements others : List Statement}
      (hforeign : Foreign (header.elim [] Path.keys ++ path.keys))
      (h : Sorted config header statements items others) :
      Sorted config header (.entry path value :: statements) items (.entry path value :: others)
  | header {last : Option Path} {path : Path} {items : List Item}
      {statements others : List Statement} (hkeys : path.keys ∈ tables ∨ Foreign path.keys)
      (h : Sorted config (some path) statements items others) :
      Sorted config last (.header path :: statements) items (.header path :: others)
  | itemHeader {last : Option Path} {path : Path} {items : List Item}
      {statements others : List Statement} (hforeign : Foreign path.keys)
      (h : Sorted config (some path) statements items others) :
      Sorted config last (.itemHeader path :: statements) items (.itemHeader path :: others)

/-- The statements of a file say a configuration, beside others that are left without it: each item
at most once, and each that differs from its default. -/
def Says (config : Config) (statements others : List Statement) : Prop :=
  ∃ items, Sorted config none statements items others ∧ items.Nodup ∧
    ∀ item : Item, item.value? config ≠ item.value? {} → item ∈ items

/-! ### Carrying out the statements -/

section Build

variable {config : Config} {header : Option Path} {statements others : List Statement}
  {items : List Item} {said : List Text → Option Value} {entries bare changed : Entries}

theorem Item.exists_schema {item : Item} {keys : List Text} {key : Text}
    (h : keys ++ [key] = item.keys) :
    ∃ inner, (Schema.table topSchema).follow keys = .table inner ∧ inner key = .item := by
  have hsplit (front : List Text) {last : Text} (h : keys ++ [key] = front ++ [last]) :
      keys = front ∧ key = last := by
    obtain ⟨hfront, hlast⟩ := List.append_inj' h rfl
    exact ⟨hfront, by simpa using hlast⟩
  cases item with
  | command =>
    obtain ⟨rfl, rfl⟩ := hsplit ["payload".toList] h
    exact ⟨payloadSchema, rfl, rfl⟩
  | args =>
    obtain ⟨rfl, rfl⟩ := hsplit ["payload".toList] h
    exact ⟨payloadSchema, rfl, rfl⟩
  | directory =>
    obtain ⟨rfl, rfl⟩ := hsplit ["payload".toList] h
    exact ⟨payloadSchema, rfl, rfl⟩
  | environment name =>
    obtain ⟨rfl, rfl⟩ := hsplit ["payload".toList, "env".toList] h
    exact ⟨fun _ => .item, rfl, rfl⟩
  | readChunkBytes =>
    obtain ⟨rfl, rfl⟩ := hsplit ["output".toList] h
    exact ⟨outputSchema, rfl, rfl⟩

theorem follow_ne_item {keys : List Text} (h : keys ∈ tables ∨ Foreign keys) :
    (Schema.table topSchema).follow keys ≠ .item := by
  rcases h with h | h
  · simp only [tables, List.mem_cons, List.not_mem_nil, or_false] at h
    rcases h with rfl | rfl | rfl <;> exact nofun
  · rw [h]
    exact nofun

/-- The table of the header in force is there, if it is one with items. -/
def InForce (header : Option Path) (bare : Entries) : Prop :=
  ∀ path ∈ header, ¬ Foreign path.keys → TableAt path.keys bare

theorem insertBelow?_foreign {path : Path} {value : Value}
    (h : MirrorsEntries topSchema said entries bare) (hheader : InForce header bare)
    (hforeign : Foreign (header.elim [] Path.keys ++ path.keys))
    (hbare : insertBelow? header path value bare = some changed) :
    ∃ now, insertBelow? header path value entries = some now ∧
      MirrorsEntries topSchema said now changed ∧ InForce header changed := by
  cases header with
  | none =>
    obtain ⟨now, hnow, hmirrors⟩ := h.insertUnder? hforeign hbare
    exact ⟨now, hnow, hmirrors, nofun⟩
  | some header =>
    obtain ⟨now, hnow, hmirrors, htable⟩ := h.insertAt? hforeign hbare
    refine ⟨now, hnow, hmirrors, ?_⟩
    rintro path ⟨⟩
    exact htable

/-- The items of a file are found in the tables that its statements make, beside all that the other
statements make alone: by induction on how the statements are sorted, with both trees of tables. -/
theorem Sorted.buildFrom (h : Sorted config header statements items others) (hnodup : items.Nodup)
    (hmirrors : MirrorsEntries topSchema said entries bare) (hheader : InForce header bare)
    (hsaid : ∀ item ∈ items, said item.keys = none)
    (hothers : buildFrom header bare others = some changed) :
    ∃ result found, Toml.buildFrom header entries statements = some result ∧
      MirrorsEntries topSchema found result changed ∧
      (∀ item ∈ items, found item.keys = item.value? config) ∧
      ∀ item ∉ items, found item.keys = said item.keys := by
  induction h generalizing said entries bare with
  | nil =>
    obtain rfl : bare = changed := by simpa [Toml.buildFrom] using hothers
    exact ⟨entries, said, rfl, hmirrors, by simp, fun _ _ => rfl⟩
  | @item header key value item items statements others hkeys hvalue h ih =>
    obtain ⟨hfresh, hnodup⟩ := List.nodup_cons.mp hnodup
    obtain ⟨inner, hschema, hitem⟩ := item.exists_schema hkeys
    have htable : TableAt header.keys bare :=
      hheader header rfl fun hforeign => by simp [Foreign, hschema] at hforeign
    have hplace : header.parents ++ [header.key, key] = item.keys := by
      rw [← hkeys, Path.keys, List.append_assoc]
      rfl
    obtain ⟨now, hnow, hnowMirrors⟩ := hmirrors.insertItemAt? htable hschema hitem
      (by rw [hplace]; exact hsaid item (by simp)) value
    rw [hplace] at hnowMirrors
    have hother {other : Item} (hne : other ≠ item) :
        Function.update said item.keys (some value) other.keys = said other.keys := by
      rw [Function.update_of_ne fun hkeys => hne (Item.keys_injective hkeys)]
    obtain ⟨result, found, hresult, hfoundMirrors, hfound, hleft⟩ := ih hnodup hnowMirrors hheader
      (fun other hmem => by
        rw [hother fun heq => hfresh (heq ▸ hmem)]
        exact hsaid other (by simp [hmem])) hothers
    refine ⟨result, found, buildFrom_entry_eq_some_iff.mpr ⟨now, hnow, hresult⟩, hfoundMirrors,
      ?_, ?_⟩
    · intro other hmem
      rcases List.mem_cons.mp hmem with rfl | hmem
      · rw [hleft other hfresh, Function.update_self, hvalue]
      · exact hfound other hmem
    · intro other hmem
      rw [List.mem_cons, not_or] at hmem
      rw [hleft other hmem.2, hother hmem.1]
  | entry hforeign h ih =>
    obtain ⟨later, hlater, hothers⟩ := buildFrom_entry_eq_some_iff.mp hothers
    obtain ⟨now, hnow, hnowMirrors, hnowHeader⟩ :=
      insertBelow?_foreign hmirrors hheader hforeign hlater
    obtain ⟨result, found, hresult, hrest⟩ := ih hnodup hnowMirrors hnowHeader hsaid hothers
    exact ⟨result, found, buildFrom_entry_eq_some_iff.mpr ⟨now, hnow, hresult⟩, hrest⟩
  | header hkeys h ih =>
    obtain ⟨later, hlater, hothers⟩ := buildFrom_header_eq_some_iff.mp hothers
    obtain ⟨now, hnow, hnowMirrors, htable⟩ := hmirrors.openTable? (follow_ne_item hkeys) hlater
    obtain ⟨result, found, hresult, hrest⟩ :=
      ih hnodup hnowMirrors (by rintro path ⟨⟩; exact htable) hsaid hothers
    exact ⟨result, found, buildFrom_header_eq_some_iff.mpr ⟨now, hnow, hresult⟩, hrest⟩
  | itemHeader hforeign h ih =>
    obtain ⟨later, hlater, hothers⟩ := buildFrom_itemHeader_eq_some_iff.mp hothers
    obtain ⟨now, hnow, hnowMirrors⟩ := hmirrors.openItem? hforeign hlater
    obtain ⟨result, found, hresult, hrest⟩ := ih hnodup hnowMirrors
      (by rintro path ⟨⟩ hnot; exact absurd hforeign hnot) hsaid hothers
    exact ⟨result, found, buildFrom_itemHeader_eq_some_iff.mpr ⟨now, hnow, hresult⟩, hrest⟩

end Build

/-! ### The configuration of a document -/

/-- The fields of a configuration. -/
inductive Slot where
  | command
  | args
  | directory
  | environment
  | readChunkBytes

/-- Two configurations agree in a field. -/
def Slot.Same : Slot → Config → Config → Prop
  | command, first, second => first.command = second.command
  | args, first, second => first.args = second.args
  | directory, first, second => first.directory = second.directory
  | environment, first, second => first.environment = second.environment
  | readChunkBytes, first, second => first.readChunkBytes = second.readChunkBytes

theorem eq_of_same {first second : Config} (h : ∀ slot : Slot, slot.Same first second) :
    first = second := by
  obtain ⟨_, _, _, _, _⟩ := first
  obtain ⟨_, _, _, _, _⟩ := second
  exact (Config.mk.injEq ..).mpr
    ⟨h .command, h .args, h .directory, h .environment, h .readChunkBytes⟩

/-- A step towards a configuration: fields that agree with it still do, and some others come to. -/
def Towards (target : Config) (slots : Slot → Prop) (before after : Config) : Prop :=
  ∀ slot : Slot, slot.Same before target ∨ slots slot → slot.Same after target

section Document

variable {target : Config} {fields : List Field}
  {entries others : Entries} {said : List Text → Option Value}

/-- Entries lead to a configuration if each of them is a step towards it. -/
theorem foldlM_takeEntry (slots : Text × Value → Slot → Prop) {values : List (Text × Value)}
    (h : ∀ entry ∈ values, ∀ config, ∃ after, takeEntry fields config entry = some after ∧
      Towards target (slots entry) config after) (config : Config) :
    ∃ after, values.foldlM (takeEntry fields) config = some after ∧
      Towards target (fun slot => ∃ entry ∈ values, slots entry slot) config after := by
  induction values generalizing config with
  | nil => exact ⟨config, rfl, fun slot h => h.resolve_right (by simp)⟩
  | cons entry values ih =>
    obtain ⟨between, hbetween, htowards⟩ := h entry (by simp) config
    obtain ⟨after, hafter, hrest⟩ := ih (fun other hother => h other (by simp [hother])) between
    refine ⟨after, by rw [List.foldlM_cons, hbetween]; exact hafter, fun slot hslot => ?_⟩
    refine hrest slot ?_
    rcases hslot with hsame | ⟨other, hother, hslot⟩
    · exact .inl (htowards slot (.inl hsame))
    · rcases List.mem_cons.mp hother with rfl | hother
      · exact .inl (htowards slot (.inr hslot))
      · exact .inr ⟨other, hother, hslot⟩

theorem inRange_of_lookup (h : Value.entriesInRange (entriesToValues others)) {key : Text}
    {node : Node} (hnode : others.lookup key = some node) : node.toValue.inRange := by
  rw [entriesToValues_eq_map, entriesInRange_iff] at h
  exact h _ (List.mem_map_of_mem (mem_of_lookup_eq_some hnode))

/-- What the entries of a table say is what its keys lead to. -/
theorem forall_entriesToValues (h : (entries.map Prod.fst).Nodup)
    {property : Text × Value → Prop} (hall : ∀ key node, entries.lookup key = some node →
      property (key, node.toValue)) : ∀ entry ∈ entriesToValues entries, property entry := by
  rw [entriesToValues_eq_map]
  intro entry hentry
  obtain ⟨⟨key, node⟩, hmem, rfl⟩ := List.mem_map.mp hentry
  exact hall key node ((lookup_eq_some_iff_mem h).mpr hmem)

/-- A key that leads elsewhere changes no field. -/
theorem takeEntry_foreign {next : Text → Schema} {key : Text} {node : Node} {slots : Slot → Prop}
    (h : MirrorsEntries next said entries others)
    (hrange : Value.entriesInRange (entriesToValues others))
    (hnode : entries.lookup key = some node) (hkey : next key = .foreign)
    (hlookup : fields.lookup key = none) (hslots : ∀ slot, ¬ slots slot) (config : Config) :
    ∃ after, takeEntry fields config (key, node.toValue) = some after ∧
      Towards target slots config after := by
  have hsame := h.mirrors key
  rw [hkey, hnode] at hsame
  have hvalue : node.toValue.inRange := inRange_of_lookup hrange (Eq.symm hsame)
  refine ⟨config, ?_, fun slot hslot => hslot.resolve_right (hslots slot)⟩
  rw [takeEntry, hlookup]
  exact if_pos hvalue

/-! ### The table of the environment -/

theorem texts?_map (texts : List Text) : texts? (.array (texts.map .string)) = some texts := by
  rw [texts?]
  induction texts with
  | nil => rfl
  | cons text texts ih => simp [List.mapM_cons, text?, ih]

theorem mapM_eq_some_map {α β : Type} {f : α → Option β} {g : α → β} {list : List α}
    (h : ∀ a ∈ list, f a = some (g a)) : list.mapM f = some (list.map g) := by
  induction list with
  | nil => rfl
  | cons a list ih =>
    simp [List.mapM_cons, h a (by simp), ih fun b hb => h b (by simp [hb])]

/-- The variables of an environment are found in the table that says them. -/
theorem environment?_eq {environment : Environment} (hordered : environment.Ordered)
    (h : MirrorsEntries (fun _ => .item) said entries others)
    (hsaid : ∀ name, said [name] = (environment.get? name).map .string) :
    environment? (.table (entriesToValues entries)) = some environment := by
  have hlookup (name : Text) : entries.lookup name =
      (environment.get? name).map fun text => .value (.string text) := by
    obtain ⟨hnode, -⟩ := h.mirrors name
    dsimp only at hnode
    rw [hnode, hsaid, Option.map_map]
    rfl
  have hget {key : Text} {node : Node} (hnode : entries.lookup key = some node) :
      ∃ text, environment.get? key = some text ∧ node = .value (.string text) := by
    rw [hlookup, Option.map_eq_some_iff] at hnode
    obtain ⟨text, htext, rfl⟩ := hnode
    exact ⟨text, htext, rfl⟩
  let pair (entry : Text × Value) : Text × Text :=
    (entry.1, (environment.get? entry.1).getD [])
  have hpairs : (entriesToValues entries).mapM
      (fun entry => (text? entry.2).map (entry.1, ·)) =
        some ((entriesToValues entries).map pair) := by
    refine mapM_eq_some_map (forall_entriesToValues h.nodup fun key node hnode => ?_)
    obtain ⟨text, htext, rfl⟩ := hget hnode
    simp [pair, htext, Node.toValue, text?]
  rw [environment?, hpairs, Option.map_some, Environment.ofList_eq hordered]
  · rw [List.forall_mem_map]
    refine forall_entriesToValues h.nodup fun key node hnode => ?_
    obtain ⟨text, htext, -⟩ := hget hnode
    simp [pair, htext]
  · intro name hname
    obtain ⟨text, htext⟩ := Option.ne_none_iff_exists'.mp hname
    have hmem : (name, .value (.string text)) ∈ entries :=
      mem_of_lookup_eq_some (by rw [hlookup, htext, Option.map_some])
    rw [entriesToValues_eq_map, List.map_map, List.map_map]
    exact List.mem_map_of_mem hmem

/-! ### The tables of the payload and of its output -/

/-- What is found at the keys of an item is its value in the configuration, or nothing at all. -/
def Finds (target : Config) (said : List Text → Option Value) : Prop :=
  ∀ item : Item, said item.keys = none ∧ item.value? target = item.value? {} ∨
    said item.keys = item.value? target

theorem Finds.value? {found : List Text → Option Value} (h : Finds target found) {item : Item}
    {value : Value} (hvalue : found item.keys = some value) : item.value? target = some value := by
  rcases h item with ⟨hnone, -⟩ | hsome
  · rw [hnone] at hvalue
    contradiction
  · rw [← hsome, hvalue]

/-- The fields of the keys of the table `payload`. -/
def payloadSlot (key : Text) : Slot → Prop
  | .command => key = "command".toList
  | .args => key = "args".toList
  | .directory => key = "cwd".toList
  | .environment => key = "env".toList
  | .readChunkBytes => False

/-- The field of the key of the table `output`. -/
def outputSlot (key : Text) : Slot → Prop
  | .readChunkBytes => key = "read_chunk_bytes".toList
  | _ => False

section Tables

variable {found : List Text → Option Value} {key : Text} {node : Node}

theorem Finds.exists_value {said : List Text → Option Value} (h : Finds target found) (item : Item)
    {other : Option Node} (hmirrors : Mirrors .item said (some node) other)
    (hsaid : said [] = found item.keys) :
    ∃ value, node = .value value ∧ item.value? target = some value := by
  obtain ⟨hnode, -⟩ := hmirrors
  obtain ⟨value, hvalue, hnode⟩ := Option.map_eq_some_iff.mp hnode.symm
  exact ⟨value, hnode.symm, h.value? (hsaid ▸ hvalue)⟩

/-- Variables have no default, so all of them are found. -/
theorem Finds.environment (h : Finds target found) (name : Text) :
    found (Item.environment name).keys = (target.environment.get? name).map .string := by
  rcases h (.environment name) with ⟨hnone, hvalue⟩ | hsome
  · rw [hnone]
    exact hvalue.symm
  · exact hsome

theorem takeEntry_payload (hfinds : Finds target found) (hordered : target.environment.Ordered)
    (h : MirrorsEntries payloadSchema (fun keys => found ("payload".toList :: keys)) entries others)
    (hrange : Value.entriesInRange (entriesToValues others))
    (hnode : entries.lookup key = some node) (config : Config) :
    ∃ after, takeEntry payloadFields config (key, node.toValue) = some after ∧
      Towards target (payloadSlot key) config after := by
  have hmirrors := h.mirrors key
  rw [hnode] at hmirrors
  by_cases hcommand : key = "command".toList
  · subst hcommand
    obtain ⟨value, rfl, hvalue⟩ := hfinds.exists_value .command hmirrors rfl
    obtain ⟨text, htext, rfl⟩ := Option.map_eq_some_iff.mp hvalue
    refine ⟨{ config with command := some text }, rfl, fun slot hslot => ?_⟩
    cases slot <;> simp_all [Slot.Same, payloadSlot]
  by_cases hargs : key = "args".toList
  · subst hargs
    obtain ⟨value, rfl, hvalue⟩ := hfinds.exists_value .args hmirrors rfl
    obtain rfl := Option.some.inj hvalue
    refine ⟨{ config with args := target.args }, ?_, fun slot hslot => ?_⟩
    · change (texts? (.array (target.args.map .string))).map _ = _
      rw [texts?_map]
      rfl
    · cases slot <;> simp_all [Slot.Same, payloadSlot]
  by_cases hdirectory : key = "cwd".toList
  · subst hdirectory
    obtain ⟨value, rfl, hvalue⟩ := hfinds.exists_value .directory hmirrors rfl
    obtain ⟨text, htext, rfl⟩ := Option.map_eq_some_iff.mp hvalue
    refine ⟨{ config with directory := some text }, rfl, fun slot hslot => ?_⟩
    cases slot <;> simp_all [Slot.Same, payloadSlot]
  by_cases henvironment : key = "env".toList
  · subst henvironment
    rw [payloadSchema_env, mirrors_table_iff] at hmirrors
    obtain ⟨hnone, -⟩ | ⟨origin, inner, bare, hnode, -, hinner⟩ := hmirrors
    · contradiction
    · obtain rfl := Option.some.inj hnode
      refine ⟨{ config with environment := target.environment }, ?_, fun slot hslot => ?_⟩
      · change (environment? (.table (entriesToValues inner))).map _ = _
        rw [environment?_eq hordered hinner hfinds.environment]
        rfl
      · cases slot <;> simp_all [Slot.Same, payloadSlot]
  · have hschema : payloadSchema key = .foreign := by
      simp only [payloadSchema, hcommand, hargs, hdirectory, henvironment, or_self, if_false]
    have hlookup : payloadFields.lookup key = none := by
      simp only [payloadFields, lookup_cons_eq, if_neg hcommand, if_neg hargs, if_neg hdirectory,
        if_neg henvironment, List.lookup_nil]
    refine takeEntry_foreign h hrange hnode hschema hlookup (fun slot => ?_) config
    cases slot <;> first | assumption | exact id

theorem takeEntry_output (hlimit : target.readChunkBytes ≤ chunkLimit)
    (hfinds : Finds target found)
    (h : MirrorsEntries outputSchema (fun keys => found ("output".toList :: keys)) entries others)
    (hrange : Value.entriesInRange (entriesToValues others))
    (hnode : entries.lookup key = some node) (config : Config) :
    ∃ after, takeEntry outputFields config (key, node.toValue) = some after ∧
      Towards target (outputSlot key) config after := by
  have hmirrors := h.mirrors key
  rw [hnode] at hmirrors
  by_cases hkey : key = "read_chunk_bytes".toList
  · subst hkey
    obtain ⟨value, rfl, hvalue⟩ := hfinds.exists_value .readChunkBytes hmirrors rfl
    obtain rfl := Option.some.inj hvalue
    refine ⟨{ config with readChunkBytes := target.readChunkBytes }, ?_, fun slot hslot => ?_⟩
    · change (chunk? (.integer (.ofNat target.readChunkBytes))).map _ = _
      rw [chunk?, if_pos hlimit]
      rfl
    · cases slot <;> simp_all [Slot.Same, outputSlot]
  · have hlookup : outputFields.lookup key = none := by
      rw [outputFields, lookup_cons_eq, if_neg hkey]
      rfl
    refine takeEntry_foreign h hrange hnode (if_neg hkey) hlookup (fun slot => ?_) config
    cases slot <;> first | assumption | exact id

/-- The fields for which a table of a file has an entry. -/
def TableSays (name : Text) (slots : Text → Slot → Prop) (entries : Entries) (slot : Slot) : Prop :=
  ∃ origin inner key, entries.lookup name = some (.table origin inner) ∧ slots key slot ∧
    inner.lookup key ≠ none

/-- The fields for which the tables of a file have an entry. -/
def topSlot (entries : Entries) (key : Text) (slot : Slot) : Prop :=
  key = "payload".toList ∧ TableSays "payload".toList payloadSlot entries slot ∨
    key = "output".toList ∧ TableSays "output".toList outputSlot entries slot

theorem exists_entry_of_lookup (h : entries.lookup key ≠ none) :
    ∃ entry ∈ entriesToValues entries, entry.1 = key := by
  obtain ⟨node, hnode⟩ := Option.ne_none_iff_exists'.mp h
  rw [entriesToValues_eq_map]
  exact ⟨(key, node.toValue), List.mem_map_of_mem (mem_of_lookup_eq_some hnode), rfl⟩

/-- The entries of a table lead to a configuration if each of them is a step towards it. -/
theorem foldlM_entries {slots : Text → Slot → Prop} (hnodup : (entries.map Prod.fst).Nodup)
    (h : ∀ key node, entries.lookup key = some node → ∀ config, ∃ after,
      takeEntry fields config (key, node.toValue) = some after ∧
        Towards target (slots key) config after) (config : Config) :
    ∃ after, (entriesToValues entries).foldlM (takeEntry fields) config = some after ∧
      Towards target (fun slot => ∃ key, slots key slot ∧ entries.lookup key ≠ none)
        config after := by
  obtain ⟨after, hafter, htowards⟩ := foldlM_takeEntry (fun entry => slots entry.1)
    (forall_entriesToValues hnodup h) config
  refine ⟨after, hafter, fun slot hslot => htowards slot (hslot.imp_right ?_)⟩
  rintro ⟨key, hkey, hlookup⟩
  obtain ⟨entry, hentry, rfl⟩ := exists_entry_of_lookup hlookup
  exact ⟨entry, hentry, hkey⟩

/-- A table of a file is a step towards a configuration if all its entries are. -/
theorem takeEntry_table {name : Text} {next : Text → Schema} {slots : Text → Slot → Prop}
    (h : MirrorsEntries topSchema found entries others)
    (hrange : Value.entriesInRange (entriesToValues others))
    (hnode : entries.lookup name = some node) (hschema : topSchema name = .table next)
    (hlookup : topFields.lookup name = some (takeTable fields))
    (hinner : ∀ inner bare, MirrorsEntries next (fun keys => found (name :: keys)) inner bare →
      Value.entriesInRange (entriesToValues bare) → ∀ key node, inner.lookup key = some node →
      ∀ config, ∃ after, takeEntry fields config (key, node.toValue) = some after ∧
        Towards target (slots key) config after) (config : Config) :
    ∃ after, takeEntry topFields config (name, node.toValue) = some after ∧
      Towards target (TableSays name slots entries) config after := by
  have hmirrors := h.mirrors name
  rw [hschema, hnode, mirrors_table_iff] at hmirrors
  obtain ⟨hnone, -⟩ | ⟨origin, inner, bare, hsome, hbare, hmirrors⟩ := hmirrors
  · contradiction
  obtain rfl := Option.some.inj hsome
  obtain ⟨after, hafter, htowards⟩ := foldlM_entries hmirrors.nodup
    (hinner inner bare hmirrors (inRange_of_lookup hrange hbare)) config
  refine ⟨after, by rw [takeEntry, hlookup]; exact hafter, ?_⟩
  rintro slot (hsame | ⟨_, inner', key, hinner', hkey, hthere⟩)
  · exact htowards slot (.inl hsame)
  · rw [hnode, Option.some.injEq] at hinner'
    obtain ⟨-, rfl⟩ := Node.table.inj hinner'
    exact htowards slot (.inr ⟨key, hkey, hthere⟩)

theorem takeEntry_top (hlimit : target.readChunkBytes ≤ chunkLimit) (hfinds : Finds target found)
    (hordered : target.environment.Ordered) (h : MirrorsEntries topSchema found entries others)
    (hrange : Value.entriesInRange (entriesToValues others))
    (hnode : entries.lookup key = some node) (config : Config) :
    ∃ after, takeEntry topFields config (key, node.toValue) = some after ∧
      Towards target (topSlot entries key) config after := by
  by_cases hpayload : key = "payload".toList
  · subst hpayload
    obtain ⟨after, hafter, htowards⟩ := takeEntry_table h hrange hnode topSchema_payload rfl
      (fun inner bare hinner hbare _ _ => takeEntry_payload hfinds hordered hinner hbare) config
    refine ⟨after, hafter, fun slot hslot => htowards slot (hslot.imp_right ?_)⟩
    rintro (⟨-, htable⟩ | ⟨hname, -⟩)
    · exact htable
    · exact absurd hname (by simp)
  by_cases houtput : key = "output".toList
  · subst houtput
    obtain ⟨after, hafter, htowards⟩ := takeEntry_table h hrange hnode topSchema_output rfl
      (fun inner bare hinner hbare _ _ => takeEntry_output hlimit hfinds hinner hbare) config
    refine ⟨after, hafter, fun slot hslot => htowards slot (hslot.imp_right ?_)⟩
    rintro (⟨hname, -⟩ | ⟨-, htable⟩)
    · exact absurd hname (by simp)
    · exact htable
  · have hschema : topSchema key = .foreign := by
      rw [topSchema, if_neg hpayload, if_neg houtput]
    have hlookup : topFields.lookup key = none := by
      simp only [topFields, lookup_cons_eq, if_neg hpayload, if_neg houtput, List.lookup_nil]
    refine takeEntry_foreign h hrange hnode hschema hlookup (fun slot => ?_) config
    rintro (⟨hname, -⟩ | ⟨hname, -⟩)
    · exact hpayload hname
    · exact houtput hname

theorem Finds.found_or (h : Finds target found) (item : Item) :
    found item.keys ≠ none ∨ item.value? target = item.value? {} := by
  rcases h item with ⟨-, hdefault⟩ | hfound
  · exact .inr hdefault
  · cases hvalue : item.value? target with
    | some value => exact .inl (by simp [hfound, hvalue])
    | none => cases item <;> first | contradiction | exact .inr rfl

/-- Where something is found under a key of a table, the table is there. -/
theorem exists_table_of_found {next inner : Text → Schema} {keys : List Text}
    (h : MirrorsEntries next said entries others) (hkey : next key = .table inner)
    (hfound : said (key :: keys) ≠ none) :
    ∃ origin es fs, entries.lookup key = some (.table origin es) ∧
      MirrorsEntries inner (fun keys => said (key :: keys)) es fs := by
  have hmirrors := h.mirrors key
  rw [hkey] at hmirrors
  obtain ⟨-, -, hnone⟩ | ⟨origin, es, fs, hnode, -, hinner⟩ := mirrors_table_iff.mp hmirrors
  · exact absurd (hnone keys) hfound
  · exact ⟨origin, es, fs, hnode, hinner⟩

theorem lookup_ne_none_of_found {next : Text → Schema} (h : MirrorsEntries next said entries others)
    (hkey : next key = .item) (hfound : said [key] ≠ none) : entries.lookup key ≠ none := by
  have hmirrors := h.mirrors key
  rw [hkey] at hmirrors
  rw [hmirrors.1]
  simpa using hfound

/-- An item of the table `payload` that is found counts for its field. -/
theorem tableSays_payload (h : MirrorsEntries topSchema found entries others) {slot : Slot}
    (hkey : payloadSchema key = .item) (hslot : payloadSlot key slot)
    (hfound : found ["payload".toList, key] ≠ none) :
    TableSays "payload".toList payloadSlot entries slot := by
  obtain ⟨origin, inner, _, hlookup, hinner⟩ :=
    exists_table_of_found h topSchema_payload hfound
  exact ⟨origin, inner, key, hlookup, hslot, lookup_ne_none_of_found hinner hkey hfound⟩

/-- The variables that are found count for the environment. -/
theorem tableSays_environment (hfinds : Finds target found)
    (h : MirrorsEntries topSchema found entries others) (hsome : target.environment ≠ []) :
    TableSays "payload".toList payloadSlot entries .environment := by
  obtain ⟨pair, environment, henvironment⟩ := List.exists_cons_of_ne_nil hsome
  have hget : target.environment.get? pair.1 = some pair.2 := by
    rw [henvironment, Environment.get?, lookup_cons_eq, if_pos rfl]
  have hfound : found ["payload".toList, "env".toList, pair.1] ≠ none := by
    have hvalue := hfinds.environment pair.1
    rw [hget] at hvalue
    exact fun hnone => Option.some_ne_none _ (hvalue.symm.trans hnone)
  obtain ⟨origin, inner, _, hlookup, hinner⟩ := exists_table_of_found h topSchema_payload hfound
  obtain ⟨_, _, _, henv, -⟩ := exists_table_of_found hinner payloadSchema_env hfound
  exact ⟨origin, inner, "env".toList, hlookup, rfl, henv ▸ Option.some_ne_none _⟩

/-- A number of bytes that is found counts for its field. -/
theorem tableSays_output (h : MirrorsEntries topSchema found entries others)
    (hfound : found Item.readChunkBytes.keys ≠ none) :
    TableSays "output".toList outputSlot entries .readChunkBytes := by
  obtain ⟨origin, inner, _, hlookup, hinner⟩ := exists_table_of_found h topSchema_output hfound
  exact ⟨origin, inner, _, hlookup, rfl, lookup_ne_none_of_found hinner rfl hfound⟩

/-- A field that no table has an entry for has its default. -/
theorem tableSays_or_default (hfinds : Finds target found)
    (h : MirrorsEntries topSchema found entries others) (slot : Slot) :
    TableSays "payload".toList payloadSlot entries slot ∨
      TableSays "output".toList outputSlot entries slot ∨ slot.Same {} target := by
  cases slot with
  | command =>
    refine (hfinds.found_or .command).imp (tableSays_payload h rfl rfl) fun hdefault => .inr ?_
    exact (Option.map_eq_none_iff.mp hdefault).symm
  | args =>
    refine (hfinds.found_or .args).imp (tableSays_payload h rfl rfl) fun hdefault => .inr ?_
    have hargs : target.args.map Value.string = [] := by simpa [Item.value?] using hdefault
    exact (List.map_eq_nil_iff.mp hargs).symm
  | directory =>
    refine (hfinds.found_or .directory).imp (tableSays_payload h rfl rfl) fun hdefault => .inr ?_
    exact (Option.map_eq_none_iff.mp hdefault).symm
  | environment =>
    by_cases hnone : target.environment = []
    · exact .inr (.inr hnone.symm)
    · exact .inl (tableSays_environment hfinds h hnone)
  | readChunkBytes =>
    refine .inr ((hfinds.found_or .readChunkBytes).imp (tableSays_output h) fun hdefault => ?_)
    have hreads : (target.readChunkBytes : Int) = (8192 : Nat) := by
      simpa [Item.value?] using hdefault
    exact (Int.ofNat.inj hreads).symm

theorem TableSays.lookup_ne_none {name : Text} {slots : Text → Slot → Prop} {slot : Slot}
    (h : TableSays name slots entries slot) : entries.lookup name ≠ none := by
  obtain ⟨origin, inner, key, hlookup, -⟩ := h
  exact hlookup ▸ Option.some_ne_none _

/-- A document in which all items are found says their configuration. -/
theorem ofDocument?_eq (hlimit : target.readChunkBytes ≤ chunkLimit) (hfinds : Finds target found)
    (hordered : target.environment.Ordered) (h : MirrorsEntries topSchema found entries others)
    (hrange : Value.entriesInRange (entriesToValues others)) :
    ofDocument? (entriesToValues entries) = some target := by
  obtain ⟨after, hafter, htowards⟩ := foldlM_entries h.nodup
    (fun key node hnode => takeEntry_top hlimit hfinds hordered h hrange hnode) {}
  rw [ofDocument?, hafter, Option.some.injEq]
  refine eq_of_same fun slot => htowards slot ?_
  obtain hpayload | houtput | hdefault := tableSays_or_default hfinds h slot
  · exact .inr ⟨_, .inl ⟨rfl, hpayload⟩, hpayload.lookup_ne_none⟩
  · exact .inr ⟨_, .inr ⟨rfl, houtput⟩, houtput.lookup_ne_none⟩
  · exact .inl hdefault

end Tables

end Document

/-- The statements of a file that says a configuration are carried out, and the configuration is
what their document says. -/
theorem Says.ofDocument? {config : Config} {statements others : List Statement}
    {document : List (Text × Value)} (h : Says config statements others)
    (hordered : config.environment.Ordered) (hlimit : config.readChunkBytes ≤ chunkLimit)
    (hothers : build? others = some document) (hrange : InRange others) :
    ∃ table, build? statements = some table ∧ Config.ofDocument? table = some config := by
  obtain ⟨items, hsorted, hnodup, hdefaults⟩ := h
  have hvalues : Value.entriesInRange document := inRange_build? hrange hothers
  obtain ⟨bare, hbare, rfl⟩ := Option.map_eq_some_iff.mp hothers
  obtain ⟨entries, found, hentries, hmirrors, hitems, hrest⟩ := hsorted.buildFrom hnodup
    (mirrorsEntries_nil fun _ => rfl) nofun (fun _ _ => rfl) hbare
  refine ⟨entriesToValues entries, by rw [build?, hentries]; rfl,
    ofDocument?_eq hlimit (fun item => ?_) hordered hmirrors hvalues⟩
  by_cases hitem : item ∈ items
  · exact .inr (hitems item hitem)
  · exact .inl ⟨hrest item hitem, not_not.mp fun hdiffers => hitem (hdefaults item hdiffers)⟩

end BenchRelay.Config
