import BenchRelay.Proofs.Environments
import BenchRelay.Toml.Table
import Mathlib.Logic.Function.Basic

/-!
# Tables with and without some of their entries

A reader of a document knows some of its keys, the items, by the tables they stand in. All other
keys lead out of these tables. Two trees of tables mirror each other if one has some items and the
other none, but they are the same apart from that. A statement that is not about items changes both
alike, wherever it is allowed in the tree without the items. An item is added in a table that is
there, if it is not there yet.
-/

namespace BenchRelay.Toml

/-! ### Changing what a key leads to -/

namespace Entries

variable {key k : Text} {node : Node} {entries : Entries} {change : Option Node → Option Node}

/-- Let a key lead to a node, in place of what it led to or at the end. -/
def put (key : Text) (node : Node) : Entries → Entries
  | [] => [(key, node)]
  | (k, n) :: rest => if k = key then (k, node) :: rest else (k, n) :: put key node rest

theorem alter?_eq (key : Text) (change : Option Node → Option Node) (entries : Entries) :
    alter? key change entries = (change (entries.lookup key)).map (put key · entries) := by
  induction entries with
  | nil => rfl
  | cons entry entries ih =>
    obtain ⟨k, n⟩ := entry
    by_cases hk : k = key
    · simp [alter?, put, hk]
    · simp [alter?, put, lookup_cons_eq, hk, Ne.symm hk, ih, Function.comp_def]

theorem alter?_eq_some_iff {changed : Entries} :
    alter? key change entries = some changed ↔
      ∃ node, change (entries.lookup key) = some node ∧ put key node entries = changed := by
  rw [alter?_eq, Option.map_eq_some_iff]

theorem lookup_put (key k : Text) (node : Node) (entries : Entries) :
    (put key node entries).lookup k = if k = key then some node else entries.lookup k := by
  induction entries with
  | nil => rw [put, lookup_cons_eq]
  | cons entry entries ih =>
    obtain ⟨l, n⟩ := entry
    by_cases hl : l = key
    · rw [put, if_pos hl, lookup_cons_eq, lookup_cons_eq, hl]
      split <;> rfl
    · rw [put, if_neg hl, lookup_cons_eq, lookup_cons_eq, ih]
      by_cases hk : k = l
      · rw [if_pos hk, if_pos hk, if_neg (hk ▸ hl)]
      · rw [if_neg hk, if_neg hk]

@[simp] theorem lookup_put_self (key : Text) (node : Node) (entries : Entries) :
    (put key node entries).lookup key = some node := by
  rw [lookup_put, if_pos rfl]

theorem lookup_put_of_ne (h : k ≠ key) (node : Node) (entries : Entries) :
    (put key node entries).lookup k = entries.lookup k := by
  rw [lookup_put, if_neg h]

theorem mem_keys_put (h : k ∈ (put key node entries).map Prod.fst) :
    k = key ∨ k ∈ entries.map Prod.fst := by
  induction entries with
  | nil => simpa [put] using h
  | cons entry entries ih =>
    obtain ⟨l, n⟩ := entry
    by_cases hl : l = key
    · simp_all [put]
    · simp only [put, if_neg hl, List.map_cons, List.mem_cons] at h ⊢
      rcases h with rfl | h
      · exact .inr (.inl rfl)
      · exact (ih h).imp_right .inr

theorem nodup_put (h : (entries.map Prod.fst).Nodup) :
    ((put key node entries).map Prod.fst).Nodup := by
  induction entries with
  | nil => simp [put]
  | cons entry entries ih =>
    obtain ⟨l, n⟩ := entry
    rw [List.map_cons, List.nodup_cons] at h
    by_cases hl : l = key
    · simpa [put, hl] using h
    · rw [put, if_neg hl, List.map_cons, List.nodup_cons]
      exact ⟨fun hmem => (mem_keys_put hmem).elim hl h.1, ih h.2⟩

end Entries

/-- All keys of a path. -/
def Path.keys (path : Path) : List Text := path.parents ++ [path.key]

/-! ### One statement after another -/

section Build

variable {entries changed : Entries} {header : Option Path} {statements : List Statement}

theorem buildFrom_header_eq_some_iff {path : Path} :
    buildFrom header entries (.header path :: statements) = some changed ↔
      ∃ now, entries.openTable? path = some now ∧
        buildFrom (some path) now statements = some changed := by
  rw [buildFrom]
  exact Option.bind_eq_some_iff

theorem buildFrom_itemHeader_eq_some_iff {path : Path} :
    buildFrom header entries (.itemHeader path :: statements) = some changed ↔
      ∃ now, entries.openItem? path = some now ∧
        buildFrom (some path) now statements = some changed := by
  rw [buildFrom]
  exact Option.bind_eq_some_iff

/-- Add an entry under a header, or before the first one. -/
def insertBelow? (header : Option Path) (path : Path) (value : Value) (entries : Entries) :
    Option Entries :=
  header.elim (entries.insertPath? path value) fun header => entries.insertAt? header path value

theorem buildFrom_entry_eq_some_iff {path : Path} {value : Value} :
    buildFrom header entries (.entry path value :: statements) = some changed ↔
      ∃ now, insertBelow? header path value entries = some now ∧
        buildFrom header now statements = some changed := by
  cases header <;> exact Option.bind_eq_some_iff

end Build

/-! ### Items and tables -/

/-- Which keys lead to tables with items, which to items, and which lead elsewhere. -/
inductive Schema where
  | foreign
  | item
  | table (next : Text → Schema)

namespace Schema

/-- Where keys lead to one after another. -/
def follow : Schema → List Text → Schema
  | schema, [] => schema
  | .table next, key :: keys => (next key).follow keys
  | schema, _ :: _ => schema

@[simp] theorem follow_nil (schema : Schema) : schema.follow [] = schema := by
  cases schema <;> rfl

@[simp] theorem follow_table (next : Text → Schema) (key : Text) (keys : List Text) :
    (table next).follow (key :: keys) = (next key).follow keys := rfl

@[simp] theorem follow_foreign (keys : List Text) : foreign.follow keys = foreign := by
  cases keys <;> rfl

@[simp] theorem follow_item (keys : List Text) : item.follow keys = item := by
  cases keys <;> rfl

theorem follow_append (schema : Schema) (keys more : List Text) :
    schema.follow (keys ++ more) = (schema.follow keys).follow more := by
  induction keys generalizing schema with
  | nil => simp
  | cons key keys ih => cases schema <;> simp [ih]

end Schema

/-- What keys lead to in a tree with some items and in the same tree without them. -/
def Mirrors : Schema → (List Text → Option Value) → Option Node → Option Node → Prop
  | .foreign, _, node, other => node = other
  | .item, said, node, other => node = (said []).map .value ∧ other = none
  | .table next, said, node, other =>
    (node = none ∧ other = none ∧ ∀ keys, said keys = none) ∨
      ∃ origin entries others, node = some (.table origin entries) ∧
        other = some (.table origin others) ∧ (entries.map Prod.fst).Nodup ∧
        ∀ key, Mirrors (next key) (fun keys => said (key :: keys)) (entries.lookup key)
          (others.lookup key)

/-- The entries of a table with some items and of the same table without them. -/
structure MirrorsEntries (next : Text → Schema) (said : List Text → Option Value)
    (entries others : Entries) : Prop where
  nodup : (entries.map Prod.fst).Nodup
  mirrors : ∀ key, Mirrors (next key) (fun keys => said (key :: keys)) (entries.lookup key)
    (others.lookup key)

section Mirrors

variable {schema : Schema} {next inner : Text → Schema} {said : List Text → Option Value}
  {entries others changed : Entries} {node other : Node} {key : Text} {parents : List Text}

theorem mirrors_table_iff {node other : Option Node} : Mirrors (.table next) said node other ↔
    (node = none ∧ other = none ∧ ∀ keys, said keys = none) ∨
      ∃ origin entries others, node = some (.table origin entries) ∧
        other = some (.table origin others) ∧ MirrorsEntries next said entries others := by
  constructor
  · rintro (hnone | ⟨origin, entries, others, hnode, hother, hnodup, hmirrors⟩)
    · exact .inl hnone
    · exact .inr ⟨origin, entries, others, hnode, hother, hnodup, hmirrors⟩
  · rintro (hnone | ⟨origin, entries, others, hnode, hother, hnodup, hmirrors⟩)
    · exact .inl hnone
    · exact .inr ⟨origin, entries, others, hnode, hother, hnodup, hmirrors⟩

theorem MirrorsEntries.table (h : MirrorsEntries next said entries others) (origin : Origin) :
    Mirrors (.table next) said (some (.table origin entries)) (some (.table origin others)) :=
  mirrors_table_iff.mpr (.inr ⟨origin, entries, others, rfl, rfl, h⟩)

theorem mirrors_none (h : ∀ keys, said keys = none) (schema : Schema) :
    Mirrors schema said none none := by
  cases schema with
  | foreign => rfl
  | item => simp [Mirrors, h]
  | table next => exact .inl ⟨rfl, rfl, h⟩

theorem mirrorsEntries_nil (h : ∀ keys, said keys = none) : MirrorsEntries next said [] [] :=
  ⟨List.nodup_nil, fun key => mirrors_none (fun keys => h (key :: keys)) (next key)⟩

theorem MirrorsEntries.put (h : MirrorsEntries next said entries others)
    (hnode : Mirrors (next key) (fun keys => said (key :: keys)) (some node) (some other)) :
    MirrorsEntries next said (entries.put key node) (others.put key other) := by
  refine ⟨Entries.nodup_put h.nodup, fun k => ?_⟩
  by_cases hk : k = key
  · subst hk
    simpa using hnode
  · rw [Entries.lookup_put_of_ne hk, Entries.lookup_put_of_ne hk]
    exact h.mirrors k

/-! ### Statements that are not about items -/

/-- Tables that keys lead through. -/
inductive TableAt : List Text → Entries → Prop
  | nil {entries : Entries} : TableAt [] entries
  | cons {key : Text} {keys : List Text} {origin : Origin} {entries inner : Entries}
      (h : entries.lookup key = some (.table origin inner)) (hkeys : TableAt keys inner) :
      TableAt (key :: keys) entries

theorem tableAt_cons_iff {keys : List Text} : TableAt (key :: keys) entries ↔
    ∃ origin inner, entries.lookup key = some (.table origin inner) ∧ TableAt keys inner := by
  constructor
  · rintro (_ | ⟨h, hkeys⟩)
    exact ⟨_, _, h, hkeys⟩
  · rintro ⟨origin, inner, h, hkeys⟩
    exact .cons h hkeys

/-- What changes a key by changing the table that it leads to, or a new one. -/
structure GoesInto (change : Option Node → Option Node) (sub : Entries → Option Entries)
    (new : Origin) (allowed : Origin → Bool) : Prop where
  fresh : change none = (sub []).map (.table new)
  present : ∀ origin inner, change (some (.table origin inner)) =
    if allowed origin then (sub inner).map (.table origin) else none

theorem GoesInto.mirrors {change : Option Node → Option Node} {sub : Entries → Option Entries}
    {new : Origin} {allowed : Origin → Bool} (h : GoesInto change sub new allowed)
    {node other : Option Node} {later : Node} (hnode : Mirrors (.table next) said node other)
    (hlater : change other = some later) :
    ∃ origin entries others changed, MirrorsEntries next said entries others ∧
      sub others = some changed ∧ later = .table origin changed ∧
      ∀ result, sub entries = some result → change node = some (.table origin result) := by
  obtain ⟨rfl, rfl, hsaid⟩ | ⟨origin, entries, others, rfl, rfl, hentries⟩ :=
    mirrors_table_iff.mp hnode
  · rw [h.fresh, Option.map_eq_some_iff] at hlater
    obtain ⟨changed, hchanged, rfl⟩ := hlater
    refine ⟨new, [], [], changed, mirrorsEntries_nil hsaid, hchanged, rfl, fun result hresult => ?_⟩
    rw [h.fresh, hresult, Option.map_some]
  · rw [h.present] at hlater
    split at hlater
    · next hallowed =>
      obtain ⟨changed, hchanged, rfl⟩ := Option.map_eq_some_iff.mp hlater
      refine ⟨origin, entries, others, changed, hentries, hchanged, rfl, fun result hresult => ?_⟩
      rw [h.present, if_pos hallowed, hresult, Option.map_some]
    · contradiction

theorem exists_goesInto_atHeader? (key parent : Text) (parents : List Text)
    (change : Option Node → Option Node) :
    ∃ go, (∀ entries : Entries,
        entries.atHeader? key change (parent :: parents) = entries.alter? parent go) ∧
      GoesInto go (fun inner => inner.atHeader? key change parents) .passage fun _ => true :=
  ⟨_, fun _ => rfl, rfl, fun _ _ => rfl⟩

theorem exists_goesInto_insertUnder? (key parent : Text) (parents : List Text) (value : Value) :
    ∃ go, (∀ entries : Entries,
        entries.insertUnder? key value (parent :: parents) = entries.alter? parent go) ∧
      GoesInto go (fun inner => inner.insertUnder? key value parents) .dotted
        fun origin => origin == .dotted || origin == .passage && !parents.isEmpty :=
  ⟨_, fun _ => rfl, rfl, fun origin _ => by cases origin <;> cases parents <;> rfl⟩

/-- A key that leads elsewhere is changed in both trees alike. -/
theorem MirrorsEntries.alter?_foreign {change : Option Node → Option Node}
    (h : MirrorsEntries next said entries others) (hkey : next key = .foreign)
    (hothers : others.alter? key change = some changed) :
    ∃ result, entries.alter? key change = some result ∧
      MirrorsEntries next said result changed := by
  obtain ⟨later, hlater, rfl⟩ := Entries.alter?_eq_some_iff.mp hothers
  have hsame := h.mirrors key
  rw [hkey] at hsame
  exact ⟨_, Entries.alter?_eq_some_iff.mpr ⟨later, by rwa [show _ = _ from hsame], rfl⟩,
    h.put (by rw [hkey]; exact rfl)⟩

/-- A change at a header is made in the tree with the items as in the one without them, and leads to
a table if the header is one of a table with items. -/
theorem MirrorsEntries.atHeader? {change : Option Node → Option Node}
    (h : MirrorsEntries next said entries others)
    (hschema : (Schema.table next).follow (parents ++ [key]) = schema) (hitem : schema ≠ .item)
    (hchange : ∀ node other later,
      Mirrors schema (fun keys => said (parents ++ key :: keys)) node other →
      change other = some later → ∃ now, change node = some now ∧
        Mirrors schema (fun keys => said (parents ++ key :: keys)) (some now) (some later))
    (hothers : others.atHeader? key change parents = some changed) :
    ∃ result, entries.atHeader? key change parents = some result ∧
      MirrorsEntries next said result changed ∧
      (schema ≠ .foreign → TableAt (parents ++ [key]) changed) := by
  induction parents generalizing next said entries others changed with
  | nil =>
    simp only [Entries.atHeader?] at hothers ⊢
    obtain ⟨later, hlater, rfl⟩ := Entries.alter?_eq_some_iff.mp hothers
    obtain rfl : next key = schema := by simpa using hschema
    obtain ⟨now, hnow, hmirrors⟩ := hchange _ _ _ (h.mirrors key) hlater
    refine ⟨_, Entries.alter?_eq_some_iff.mpr ⟨now, hnow, rfl⟩, h.put hmirrors, fun hforeign => ?_⟩
    cases hnext : next key with
    | foreign => exact absurd hnext hforeign
    | item => exact absurd hnext hitem
    | table inner =>
      rw [hnext, mirrors_table_iff] at hmirrors
      obtain ⟨hnone, -⟩ | ⟨origin, _, later, -, hlater, -⟩ := hmirrors
      · contradiction
      · exact .cons (by rw [Entries.lookup_put_self, hlater]) .nil
  | cons parent parents ih =>
    obtain ⟨go, hgo, hinto⟩ := exists_goesInto_atHeader? key parent parents change
    rw [List.cons_append, Schema.follow_table] at hschema
    rw [hgo] at hothers ⊢
    cases hnext : next parent with
    | foreign =>
      rw [hnext, Schema.follow_foreign] at hschema
      obtain ⟨result, hresult, hmirrors⟩ := h.alter?_foreign hnext hothers
      exact ⟨result, hresult, hmirrors, fun hforeign => absurd hschema.symm hforeign⟩
    | item =>
      rw [hnext, Schema.follow_item] at hschema
      exact absurd hschema.symm hitem
    | table inner =>
      obtain ⟨later, hlater, rfl⟩ := Entries.alter?_eq_some_iff.mp hothers
      have hparent := h.mirrors parent
      rw [hnext] at hparent hschema
      obtain ⟨origin, es, fs, innerChanged, hinner, hinnerChanged, rfl, hnow⟩ :=
        hinto.mirrors hparent hlater
      obtain ⟨result, hresult, hmirrors, htable⟩ := ih hinner hschema hchange hinnerChanged
      exact ⟨_, Entries.alter?_eq_some_iff.mpr ⟨_, hnow result hresult, rfl⟩,
        h.put (by rw [hnext]; exact hmirrors.table origin),
        fun hforeign => .cons (Entries.lookup_put_self _ _ _) (htable hforeign)⟩

/-- An entry whose keys lead elsewhere is added to both trees alike. -/
theorem MirrorsEntries.insertUnder? {value : Value} (h : MirrorsEntries next said entries others)
    (hforeign : (Schema.table next).follow (parents ++ [key]) = .foreign)
    (hothers : others.insertUnder? key value parents = some changed) :
    ∃ result, entries.insertUnder? key value parents = some result ∧
      MirrorsEntries next said result changed := by
  induction parents generalizing next said entries others changed with
  | nil => exact h.alter?_foreign (by simpa using hforeign) hothers
  | cons parent parents ih =>
    obtain ⟨go, hgo, hinto⟩ := exists_goesInto_insertUnder? key parent parents value
    rw [List.cons_append, Schema.follow_table] at hforeign
    rw [hgo] at hothers ⊢
    cases hnext : next parent with
    | foreign => exact h.alter?_foreign hnext hothers
    | item =>
      rw [hnext, Schema.follow_item] at hforeign
      contradiction
    | table inner =>
      obtain ⟨later, hlater, rfl⟩ := Entries.alter?_eq_some_iff.mp hothers
      have hparent := h.mirrors parent
      rw [hnext] at hparent hforeign
      obtain ⟨origin, es, fs, innerChanged, hinner, hinnerChanged, rfl, hnow⟩ :=
        hinto.mirrors hparent hlater
      obtain ⟨result, hresult, hmirrors⟩ := ih hinner hforeign hinnerChanged
      exact ⟨_, Entries.alter?_eq_some_iff.mpr ⟨_, hnow result hresult, rfl⟩,
        h.put (by rw [hnext]; exact hmirrors.table origin)⟩

/-! ### Statements on the way to an item -/

/-- An entry under the header of a table is an entry of that table. -/
theorem MirrorsEntries.insertAt? {header path : Path} {value : Value}
    (h : MirrorsEntries next said entries others)
    (hforeign : (Schema.table next).follow (header.keys ++ path.keys) = .foreign)
    (hothers : others.insertAt? header path value = some changed) :
    ∃ result, entries.insertAt? header path value = some result ∧
      MirrorsEntries next said result changed ∧
      ((Schema.table next).follow header.keys ≠ .foreign →
        TableAt header.keys changed) := by
  rw [Schema.follow_append] at hforeign
  refine h.atHeader? rfl (fun hitem => by simp [hitem] at hforeign) ?_ hothers
  intro node other later hmirrors hlater
  cases hschema : (Schema.table next).follow header.keys with
  | foreign =>
    rw [hschema] at hmirrors
    exact ⟨later, by rwa [show node = other from hmirrors], rfl⟩
  | item => simp [hschema] at hforeign
  | table inner =>
    rw [hschema] at hmirrors hforeign
    obtain ⟨rfl, rfl, -⟩ | ⟨origin, es, fs, rfl, rfl, hinner⟩ := mirrors_table_iff.mp hmirrors
    · contradiction
    · obtain ⟨innerChanged, hinnerChanged, rfl⟩ := Option.map_eq_some_iff.mp hlater
      obtain ⟨result, hresult, hmirrors⟩ := hinner.insertUnder? hforeign hinnerChanged
      refine ⟨.table origin result, ?_, hmirrors.table origin⟩
      simp only [Entries.insertPath?, hresult, Option.map_some]

/-- A header begins a table in the tree with the items as in the one without them. -/
theorem MirrorsEntries.openTable? {path : Path} (h : MirrorsEntries next said entries others)
    (hitem : (Schema.table next).follow path.keys ≠ .item)
    (hothers : others.openTable? path = some changed) :
    ∃ result, entries.openTable? path = some result ∧ MirrorsEntries next said result changed ∧
      ((Schema.table next).follow path.keys ≠ .foreign →
        TableAt path.keys changed) := by
  refine h.atHeader? rfl hitem ?_ hothers
  intro node other later hmirrors hlater
  cases hschema : (Schema.table next).follow path.keys with
  | foreign =>
    rw [hschema] at hmirrors
    exact ⟨later, by rwa [show node = other from hmirrors], rfl⟩
  | item => exact absurd hschema hitem
  | table inner =>
    rw [hschema] at hmirrors
    obtain ⟨rfl, rfl, hnone⟩ | ⟨origin, es, fs, rfl, rfl, hinner⟩ := mirrors_table_iff.mp hmirrors
    · obtain rfl : later = .table .header [] := by simpa using hlater.symm
      exact ⟨_, rfl, (mirrorsEntries_nil hnone).table .header⟩
    · cases origin with
      | passage =>
        obtain rfl : later = .table .header fs := by simpa using hlater.symm
        exact ⟨_, rfl, hinner.table .header⟩
      | header => simp at hlater
      | dotted => simp at hlater

/-- A header of an array that has no part in the tables with items. -/
theorem MirrorsEntries.openItem? {path : Path} (h : MirrorsEntries next said entries others)
    (hforeign : (Schema.table next).follow path.keys = .foreign)
    (hothers : others.openItem? path = some changed) :
    ∃ result, entries.openItem? path = some result ∧ MirrorsEntries next said result changed := by
  obtain ⟨result, hresult, hmirrors, -⟩ := h.atHeader? hforeign (by simp) (fun node other later
    hsame hlater => ⟨later, by rwa [show node = other from hsame], rfl⟩) hothers
  exact ⟨result, hresult, hmirrors⟩

/-! ### Items -/

theorem MirrorsEntries.update {value : Value} {keys : List Text}
    (h : MirrorsEntries next said entries others)
    (hnode : Mirrors (next key) (Function.update (fun keys => said (key :: keys)) keys (some value))
      (some node) (others.lookup key)) :
    MirrorsEntries next (Function.update said (key :: keys) (some value)) (entries.put key node)
      others := by
  refine ⟨Entries.nodup_put h.nodup, fun k => ?_⟩
  by_cases hk : k = key
  · subst hk
    have hsaid : (fun more => Function.update said (k :: keys) (some value) (k :: more)) =
        Function.update (fun more => said (k :: more)) keys (some value) := by
      funext more
      simp [Function.update_apply]
    rw [hsaid, Entries.lookup_put_self]
    exact hnode
  · have hsaid : (fun more => Function.update said (key :: keys) (some value) (k :: more)) =
        fun more => said (k :: more) := by
      funext more
      simp [hk]
    rw [hsaid, Entries.lookup_put_of_ne hk]
    exact h.mirrors k

/-- An item is added to its table if it is not there. -/
theorem MirrorsEntries.insertItem? (h : MirrorsEntries next said entries others)
    (hitem : next key = .item) (hsaid : said [key] = none) (value : Value) :
    ∃ result, entries.insertPath? ⟨[], key⟩ value = some result ∧
      MirrorsEntries next (Function.update said [key] (some value)) result others := by
  have hmirrors := h.mirrors key
  rw [hitem] at hmirrors
  obtain ⟨hnode, hother⟩ := hmirrors
  dsimp only at hnode
  rw [hsaid, Option.map_none] at hnode
  refine ⟨entries.put key (.value value),
    Entries.alter?_eq_some_iff.mpr ⟨.value value, by rw [hnode], rfl⟩, h.update ?_⟩
  rw [hitem, hother]
  exact ⟨by simp, rfl⟩

/-- An item is added under the header of its table. -/
theorem MirrorsEntries.insertItemAt? {k : Text}
    (h : MirrorsEntries next said entries others) (htable : TableAt (parents ++ [key]) others)
    (hschema : (Schema.table next).follow (parents ++ [key]) = .table inner)
    (hitem : inner k = .item) (hsaid : said (parents ++ [key, k]) = none) (value : Value) :
    ∃ result, entries.insertAt? ⟨parents, key⟩ ⟨[], k⟩ value = some result ∧
      MirrorsEntries next (Function.update said (parents ++ [key, k]) (some value)) result
        others := by
  induction parents generalizing next said entries others with
  | nil =>
    obtain ⟨origin, fs, hother, -⟩ := tableAt_cons_iff.mp htable
    have hmirrors := h.mirrors key
    obtain hnext : next key = .table inner := by simpa using hschema
    rw [hnext, hother, mirrors_table_iff] at hmirrors
    obtain ⟨-, hnone, -⟩ | ⟨origin, es, fs, hnode, hsame, hinner⟩ := hmirrors
    · contradiction
    · obtain ⟨result, hresult, hmirrors⟩ := hinner.insertItem? hitem hsaid value
      refine ⟨entries.put key (.table origin result), Entries.alter?_eq_some_iff.mpr
        ⟨.table origin result, by rw [hnode]; simp only [hresult, Option.map_some], rfl⟩,
        h.update ?_⟩
      rw [hnext, hother, hsame]
      exact hmirrors.table origin
  | cons parent parents ih =>
    obtain ⟨origin, fs, hother, htable⟩ := tableAt_cons_iff.mp htable
    have hmirrors := h.mirrors parent
    rw [List.cons_append, Schema.follow_table] at hschema
    cases hnext : next parent with
    | foreign => simp [hnext] at hschema
    | item => simp [hnext] at hschema
    | table middle =>
      rw [hnext] at hschema
      rw [hnext, hother, mirrors_table_iff] at hmirrors
      obtain ⟨-, hnone, -⟩ | ⟨origin, es, fs, hnode, hsame, hinner⟩ := hmirrors
      · contradiction
      · obtain ⟨-, rfl⟩ := Node.table.inj (Option.some.inj hsame)
        obtain ⟨result, hresult, hmirrors⟩ := ih hinner htable hschema hsaid
        refine ⟨entries.put parent (.table origin result), Entries.alter?_eq_some_iff.mpr
          ⟨.table origin result, ?_, rfl⟩, h.update ?_⟩
        · rw [hnode]
          exact congrArg (Option.map (Node.table origin)) hresult
        · rw [hnext, hother, hsame]
          exact hmirrors.table origin

end Mirrors

end BenchRelay.Toml
