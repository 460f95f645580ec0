import BenchRelay.Proofs.TomlTables

/-!
# Carrying out statements

The values of a document are those of its statements, so its numbers are in range if theirs are.
Statements can be carried out if no key is said twice and no entry stands where a header leads
through.
-/

namespace BenchRelay.Toml

/-! ### The numbers of a document -/

section Range

theorem entriesToValues_eq_map (entries : Entries) :
    entriesToValues entries = entries.map fun entry => (entry.1, entry.2.toValue) := by
  induction entries with
  | nil => rfl
  | cons entry entries ih => rw [entriesToValues, ih, List.map_cons]

theorem itemsToValues_eq_map (items : List Entries) :
    itemsToValues items = items.map fun entries => .table (entriesToValues entries) := by
  induction items with
  | nil => rfl
  | cons entries items ih => rw [itemsToValues, ih, List.map_cons]

theorem entriesInRange_iff {values : List (Text × Value)} :
    Value.entriesInRange values = true ↔ ∀ entry ∈ values, entry.2.inRange = true := by
  induction values with
  | nil => simp [Value.entriesInRange]
  | cons entry values ih => simp [Value.entriesInRange, ih]

theorem allInRange_iff {values : List Value} :
    Value.allInRange values = true ↔ ∀ value ∈ values, value.inRange = true := by
  induction values with
  | nil => simp [Value.allInRange]
  | cons value values ih => simp [Value.allInRange, ih]

/-- The numbers of a node are in range. -/
def Node.InRange (node : Node) : Prop := node.toValue.inRange

/-- The numbers of entries are in range. -/
def Entries.InRange (entries : Entries) : Prop := ∀ entry ∈ entries, entry.2.InRange

variable {entries changed : Entries} {key : Text} {parents : List Text} {value : Value}

theorem entriesInRange_entriesToValues :
    Value.entriesInRange (entriesToValues entries) = true ↔ entries.InRange := by
  rw [entriesToValues_eq_map, entriesInRange_iff, List.forall_mem_map]
  rfl

theorem inRange_table_iff {origin : Origin} :
    (Node.table origin entries).InRange ↔ entries.InRange :=
  entriesInRange_entriesToValues

theorem inRange_tables_iff {items : List Entries} :
    (Node.tables items).InRange ↔ ∀ entries ∈ items, entries.InRange := by
  rw [Node.InRange, Node.toValue, itemsToValues_eq_map, Value.inRange, allInRange_iff]
  simp only [List.mem_reverse, List.forall_mem_map]
  exact forall₂_congr fun _ _ => entriesInRange_entriesToValues

theorem Entries.mem_put {entry : Text × Node} {node : Node} (h : entry ∈ entries.put key node) :
    entry = (key, node) ∨ entry ∈ entries := by
  fun_induction put key node entries <;> simp_all <;> tauto

/-- A change keeps numbers in range. -/
def KeepsRange (change : Option Node → Option Node) : Prop :=
  ∀ node later, (∀ old ∈ node, old.InRange) → change node = some later → later.InRange

theorem Entries.InRange.alter? {change : Option Node → Option Node} (h : entries.InRange)
    (hchange : KeepsRange change) (hchanged : entries.alter? key change = some changed) :
    changed.InRange := by
  obtain ⟨later, hlater, rfl⟩ := alter?_eq_some_iff.mp hchanged
  have hrange : later.InRange :=
    hchange _ _ (fun old hold => h _ (mem_of_lookup_eq_some hold)) hlater
  intro entry hentry
  rcases mem_put hentry with rfl | hentry
  · exact hrange
  · exact h entry hentry

/-- Going into a table or the last one of an array keeps numbers in range if what is done there
does. -/
theorem keepsRange_of_inside {change : Option Node → Option Node} (sub : Entries → Option Entries)
    (hsub : ∀ {inner later : Entries}, inner.InRange → sub inner = some later → later.InRange)
    (hchange : ∀ node later, change node = some later →
      (∃ origin inner, (node = some (.table origin inner) ∨ node = none ∧ inner = []) ∧
        (sub inner).map (.table origin) = some later) ∨
      ∃ last earlier, node = some (.tables (last :: earlier)) ∧
        (sub last).map (fun last => .tables (last :: earlier)) = some later) :
    KeepsRange change := by
  intro node later hnode hlater
  obtain ⟨origin, inner, hinner, hmap⟩ | ⟨last, earlier, rfl, hmap⟩ := hchange node later hlater
  · obtain ⟨result, hresult, rfl⟩ := Option.map_eq_some_iff.mp hmap
    refine inRange_table_iff.mpr (hsub ?_ hresult)
    rcases hinner with rfl | ⟨-, rfl⟩
    · exact inRange_table_iff.mp (hnode _ rfl)
    · exact nofun
  · obtain ⟨result, hresult, rfl⟩ := Option.map_eq_some_iff.mp hmap
    have hall := inRange_tables_iff.mp (hnode _ rfl)
    rw [inRange_tables_iff, List.forall_mem_cons]
    exact ⟨hsub (hall last (by simp)) hresult, fun inner hinner => hall inner (by simp [hinner])⟩

theorem Entries.InRange.atHeader? {change : Option Node → Option Node} (h : entries.InRange)
    (hchange : KeepsRange change) (hchanged : entries.atHeader? key change parents = some changed) :
    changed.InRange := by
  induction parents generalizing entries changed with
  | nil => exact h.alter? hchange hchanged
  | cons parent parents ih =>
    refine h.alter? (keepsRange_of_inside (fun inner => inner.atHeader? key change parents)
      ih fun node later hlater => ?_) hchanged
    split at hlater
    · exact .inl ⟨.passage, [], .inr ⟨rfl, rfl⟩, hlater⟩
    · exact .inl ⟨_, _, .inl rfl, hlater⟩
    · exact .inr ⟨_, _, rfl, hlater⟩
    · contradiction
    · contradiction

theorem Entries.InRange.insertUnder? (h : entries.InRange) (hvalue : value.inRange)
    (hchanged : entries.insertUnder? key value parents = some changed) : changed.InRange := by
  induction parents generalizing entries changed with
  | nil =>
    refine h.alter? (fun node later hnode hlater => ?_) hchanged
    split at hlater
    · obtain rfl := Option.some.inj hlater
      exact hvalue
    · contradiction
  | cons parent parents ih =>
    refine h.alter? (keepsRange_of_inside (fun inner => inner.insertUnder? key value parents)
      ih fun node later hlater => ?_) hchanged
    split at hlater
    · exact .inl ⟨.dotted, [], .inr ⟨rfl, rfl⟩, hlater⟩
    · contradiction
    · split at hlater
      · contradiction
      · exact .inl ⟨_, _, .inl rfl, hlater⟩
    · exact .inl ⟨_, _, .inl rfl, hlater⟩
    · split at hlater
      · contradiction
      · exact .inr ⟨_, _, rfl, hlater⟩
    · contradiction
    · contradiction

theorem Entries.InRange.insertAt? {header path : Path} (h : entries.InRange)
    (hvalue : value.inRange) (hchanged : entries.insertAt? header path value = some changed) :
    changed.InRange := by
  refine h.atHeader? (keepsRange_of_inside (fun inner => inner.insertPath? path value)
    (fun hinner => hinner.insertUnder? hvalue) fun node later hlater => ?_) hchanged
  split at hlater
  · exact .inl ⟨_, _, .inl rfl, hlater⟩
  · exact .inr ⟨_, _, rfl, hlater⟩
  · contradiction

theorem Entries.InRange.openTable? {path : Path} (h : entries.InRange)
    (hchanged : entries.openTable? path = some changed) : changed.InRange := by
  refine h.atHeader? (fun node later hnode hlater => ?_) hchanged
  split at hlater
  · obtain rfl := Option.some.inj hlater
    exact inRange_table_iff.mpr nofun
  · obtain rfl := Option.some.inj hlater
    exact inRange_table_iff.mpr (inRange_table_iff.mp (hnode _ rfl))
  · contradiction

theorem Entries.InRange.openItem? {path : Path} (h : entries.InRange)
    (hchanged : entries.openItem? path = some changed) : changed.InRange := by
  refine h.atHeader? (fun node later hnode hlater => ?_) hchanged
  split at hlater
  · obtain rfl := Option.some.inj hlater
    exact inRange_tables_iff.mpr (by simp [Entries.InRange])
  · obtain rfl := Option.some.inj hlater
    rw [inRange_tables_iff, List.forall_mem_cons]
    exact ⟨nofun, inRange_tables_iff.mp (hnode _ rfl)⟩
  · contradiction

/-- The numbers of all values of statements are in range. -/
def InRange (statements : List Statement) : Prop :=
  ∀ path value, Statement.entry path value ∈ statements → value.inRange

theorem inRange_buildFrom {statements : List Statement} {header : Option Path}
    (h : InRange statements) (hentries : entries.InRange)
    (hchanged : buildFrom header entries statements = some changed) : changed.InRange := by
  induction statements generalizing header entries with
  | nil =>
    obtain rfl := Option.some.inj hchanged
    exact hentries
  | cons statement statements ih =>
    have hrest : InRange statements := fun path value hmem => h path value (by simp [hmem])
    cases statement with
    | entry path value =>
      have hvalue := h path value (by simp)
      obtain ⟨now, hnow, hchanged⟩ := buildFrom_entry_eq_some_iff.mp hchanged
      refine ih hrest ?_ hchanged
      cases header with
      | none => exact hentries.insertUnder? hvalue hnow
      | some header => exact hentries.insertAt? hvalue hnow
    | header path =>
      obtain ⟨now, hnow, hchanged⟩ := buildFrom_header_eq_some_iff.mp hchanged
      exact ih hrest (hentries.openTable? hnow) hchanged
    | itemHeader path =>
      obtain ⟨now, hnow, hchanged⟩ := buildFrom_itemHeader_eq_some_iff.mp hchanged
      exact ih hrest (hentries.openItem? hnow) hchanged

/-- The numbers of a document are those of its statements. -/
theorem inRange_build? {statements : List Statement} {document : List (Text × Value)}
    (h : InRange statements) (hdocument : build? statements = some document) :
    Value.entriesInRange document := by
  obtain ⟨entries, hentries, rfl⟩ := Option.map_eq_some_iff.mp hdocument
  have hnone : Entries.InRange [] := nofun
  exact entriesInRange_entriesToValues.mpr (inRange_buildFrom h hnone hentries)

end Range

/-! ### Statements that can be carried out -/

/-- Where the headers of statements lead to. -/
def headerKeys (statements : List Statement) : List (List Text) :=
  statements.filterMap fun
    | .header path => some path.keys
    | _ => none

/-- Where the entries of statements lead to, with the header in force. -/
def entryKeys : Option Path → List Statement → List (List Text)
  | _, [] => []
  | header, .entry path _ :: rest =>
    (header.elim [] Path.keys ++ path.keys) :: entryKeys header rest
  | _, .header path :: rest | _, .itemHeader path :: rest => entryKeys (some path) rest

/-- An entry under a single key, or the header of a table. -/
inductive Statement.IsPlain : Statement → Prop
  | entry (key : Text) (value : Value) : IsPlain (.entry ⟨[], key⟩ value)
  | header (path : Path) : IsPlain (.header path)

/-- No key is said twice. -/
structure Distinct (statements : List Statement) : Prop where
  plain : ∀ statement ∈ statements, statement.IsPlain
  headers : (headerKeys statements).Nodup
  entries : (entryKeys none statements).Nodup
  /-- No header has the keys of an entry or leads through them. -/
  apart : ∀ keys ∈ entryKeys none statements, ∀ header ∈ headerKeys statements, ¬ keys <+: header

section Distinct

/-- What is said of the keys behind others. -/
def Beneath (keys : List Text) (said : List Text → Prop) (more : List Text) : Prop :=
  said (keys ++ more)

/-- A node is made by statements whose entries and headers lead to the given keys: each value is
that of an entry, and each table has a header or one leads through it. -/
inductive Node.MadeBy : (values headers : List Text → Prop) → Node → Prop
  | value {values headers : List Text → Prop} {value : Value} (h : values []) :
      MadeBy values headers (.value value)
  | table {values headers : List Text → Prop} {origin : Origin} {entries : Entries}
      (hdotted : origin ≠ .dotted) (hheader : origin = .header → headers [])
      (hsome : ∃ keys, headers keys)
      (h : ∀ key node, entries.lookup key = some node →
        MadeBy (Beneath [key] values) (Beneath [key] headers) node) :
      MadeBy values headers (.table origin entries)

/-- Entries are made by statements. -/
def Entries.MadeBy (values headers : List Text → Prop) (entries : Entries) : Prop :=
  ∀ key node, entries.lookup key = some node →
    node.MadeBy (Beneath [key] values) (Beneath [key] headers)

variable {values headers values' headers' : List Text → Prop} {entries : Entries} {key : Text}
  {parents : List Text} {node : Node}

theorem Node.MadeBy.mono (h : node.MadeBy values headers)
    (hvalues : ∀ keys, values keys → values' keys)
    (hheaders : ∀ keys, headers keys → headers' keys) : node.MadeBy values' headers' := by
  induction h generalizing values' headers' with
  | value h => exact .value (hvalues _ h)
  | table hdotted hheader hsome h ih =>
    obtain ⟨keys, hkeys⟩ := hsome
    exact .table hdotted (fun horigin => hheaders _ (hheader horigin)) ⟨keys, hheaders _ hkeys⟩
      fun key node hnode => ih key node hnode (fun _ => hvalues _) fun _ => hheaders _

/-- A change makes a table of a node. -/
def MakesTable (change : Option Node → Option Node) (values headers : List Text → Prop)
    (node : Option Node) : Prop :=
  ∃ origin inner, change node = some (.table origin inner) ∧
    (Node.table origin inner).MadeBy values headers

namespace Entries

theorem madeBy_nil : MadeBy values headers [] := nofun

theorem MadeBy.put (h : entries.MadeBy values headers)
    (hvalues : ∀ keys, values keys → values' keys)
    (hheaders : ∀ keys, headers keys → headers' keys)
    (hnode : node.MadeBy (Beneath [key] values') (Beneath [key] headers')) :
    (entries.put key node).MadeBy values' headers' := by
  intro k other hother
  rw [lookup_put] at hother
  split at hother
  · next hk =>
    obtain rfl := Option.some.inj hother
    exact hk ▸ hnode
  · exact (h k other hother).mono (fun _ => hvalues _) fun _ => hheaders _

/-- A table is there, or nothing at all, where no entry leads to. -/
theorem MadeBy.lookup_eq (h : entries.MadeBy values headers) (hclear : ¬ values [key]) :
    entries.lookup key = none ∨ ∃ origin inner, entries.lookup key = some (.table origin inner) ∧
      (Node.table origin inner).MadeBy (Beneath [key] values) (Beneath [key] headers) := by
  cases hnode : entries.lookup key with
  | none => exact .inl rfl
  | some node =>
    have hmade := h key node hnode
    cases node with
    | value value =>
      cases hmade with
      | value hvalue => exact absurd hvalue hclear
    | table origin inner => exact .inr ⟨origin, inner, rfl, hmade⟩
    | tables items => nomatch hmade

/-- An entry can be added if it is not there and no header leads through it. -/
theorem MadeBy.insertPath? (h : entries.MadeBy values headers)
    (hvalues : ∀ keys, values keys → values' keys)
    (hheaders : ∀ keys, headers keys → headers' keys) (hnew : ¬ values [key])
    (hapart : ∀ keys, ¬ headers (key :: keys)) (hsaid : values' [key]) (value : Value) :
    ∃ changed, entries.insertPath? ⟨[], key⟩ value = some changed ∧
      changed.MadeBy values' headers' := by
  obtain hnone | ⟨_, _, _, hmade⟩ := h.lookup_eq hnew
  · exact ⟨entries.put key (.value value),
      alter?_eq_some_iff.mpr ⟨.value value, by rw [hnone], rfl⟩,
      h.put hvalues hheaders (.value hsaid)⟩
  · cases hmade with
    | table _ _ hsome _ =>
      obtain ⟨keys, hkeys⟩ := hsome
      exact absurd hkeys (hapart keys)

/-- What goes into a table on the way to a header makes it if it is not there. -/
theorem MadeBy.into {parent : Text} {go : Option Node → Option Node}
    {sub : Entries → Option Entries} (hinto : GoesInto go sub .passage fun _ => true)
    (h : entries.MadeBy values headers) (hvalues : ∀ keys, values keys → values' keys)
    (hheaders : ∀ keys, headers keys → headers' keys) (hclear : ¬ values [parent])
    (hthrough : ∃ keys, headers' (parent :: keys)) :
    ∃ inner : Entries, inner.MadeBy (Beneath [parent] values) (Beneath [parent] headers) ∧
      (∀ keys, TableAt (parent :: keys) entries → TableAt keys inner) ∧
      ∀ changed, sub inner = some changed →
        changed.MadeBy (Beneath [parent] values') (Beneath [parent] headers') →
        ∃ origin, entries.alter? parent go = some (entries.put parent (.table origin changed)) ∧
          (entries.put parent (.table origin changed)).MadeBy values' headers' := by
  obtain hnone | ⟨origin, inner, hnode, hmade⟩ := h.lookup_eq hclear
  · refine ⟨[], madeBy_nil, fun keys htable => ?_, fun changed hchanged hlater => ?_⟩
    · obtain ⟨_, _, hsome, -⟩ := tableAt_cons_iff.mp htable
      rw [hnone] at hsome
      contradiction
    · refine ⟨.passage, alter?_eq_some_iff.mpr ⟨_, ?_, rfl⟩,
        h.put hvalues hheaders (.table nofun nofun hthrough hlater)⟩
      rw [hnone, hinto.fresh, hchanged, Option.map_some]
  · cases hmade with
    | table hdotted hheader hsome hinner =>
      refine ⟨inner, hinner, fun keys htable => ?_, fun changed hchanged hlater => ?_⟩
      · obtain ⟨_, _, hsame, htable⟩ := tableAt_cons_iff.mp htable
        rw [hnode, Option.some.injEq, Node.table.injEq] at hsame
        exact hsame.2 ▸ htable
      · refine ⟨origin, alter?_eq_some_iff.mpr ⟨_, ?_, rfl⟩, h.put hvalues hheaders
          (.table hdotted (fun horigin => hheaders _ (hheader horigin)) hthrough hlater)⟩
        rw [hnode, hinto.present, if_pos rfl, hchanged, Option.map_some]

/-- A table can be made at a header if no value is on the way and it can be made there. -/
theorem MadeBy.atHeader? {change : Option Node → Option Node} (h : entries.MadeBy values headers)
    (hvalues : ∀ keys, values keys → values' keys)
    (hheaders : ∀ keys, headers keys → headers' keys)
    (hclear : ∀ keys, keys <+: parents ++ [key] → ¬ values keys)
    (hthrough : headers' (parents ++ [key]))
    (hfresh : TableAt (parents ++ [key]) entries ∨ MakesTable change
      (Beneath (parents ++ [key]) values') (Beneath (parents ++ [key]) headers') none)
    (hpresent : ∀ origin inner, (Node.table origin inner).MadeBy (Beneath (parents ++ [key]) values)
      (Beneath (parents ++ [key]) headers) → MakesTable change (Beneath (parents ++ [key]) values')
        (Beneath (parents ++ [key]) headers') (some (.table origin inner))) :
    ∃ changed, entries.atHeader? key change parents = some changed ∧
      changed.MadeBy values' headers' ∧ TableAt (parents ++ [key]) changed := by
  induction parents generalizing entries values headers values' headers' with
  | nil =>
    have hmakes : MakesTable change (Beneath [key] values') (Beneath [key] headers')
        (entries.lookup key) := by
      obtain hnone | ⟨origin, inner, hnode, hmade⟩ :=
        h.lookup_eq (hclear [key] (List.prefix_refl _))
      · rw [hnone]
        refine hfresh.resolve_left fun htable => ?_
        obtain ⟨_, _, hsome, -⟩ := tableAt_cons_iff.mp htable
        rw [hnone] at hsome
        contradiction
      · rw [hnode]
        exact hpresent origin inner hmade
    obtain ⟨origin, inner, hlater, hmade⟩ := hmakes
    exact ⟨_, alter?_eq_some_iff.mpr ⟨_, hlater, rfl⟩, h.put hvalues hheaders hmade,
      .cons (lookup_put_self _ _ _) .nil⟩
  | cons parent parents ih =>
    obtain ⟨go, hgo, hinto⟩ := exists_goesInto_atHeader? key parent parents change
    have hbelow (keys : List Text) (hkeys : keys <+: parents ++ [key]) :
        ¬ Beneath [parent] values keys :=
      hclear (parent :: keys) (List.cons_prefix_cons.mpr ⟨rfl, hkeys⟩)
    obtain ⟨inner, hinner, hthere, hput⟩ :=
      h.into hinto hvalues hheaders (hbelow [] List.nil_prefix) ⟨_, hthrough⟩
    have hinnerFresh : TableAt (parents ++ [key]) inner ∨ MakesTable change
        (Beneath (parents ++ [key]) (Beneath [parent] values'))
        (Beneath (parents ++ [key]) (Beneath [parent] headers')) none :=
      hfresh.imp_left (hthere _)
    obtain ⟨changed, hchanged, hlater, htable⟩ :=
      ih hinner (fun _ => hvalues _) (fun _ => hheaders _) hbelow hthrough hinnerFresh hpresent
    obtain ⟨origin, halter, hmade⟩ := hput changed hchanged hlater
    exact ⟨_, (hgo entries).trans halter, hmade, .cons (lookup_put_self _ _ _) htable⟩

/-- The table of a new header can be begun. -/
theorem MadeBy.openTable? {path : Path} (h : entries.MadeBy values headers)
    (hheaders : ∀ keys, headers keys → headers' keys)
    (hclear : ∀ keys, keys <+: path.keys → ¬ values keys) (hnew : ¬ headers path.keys)
    (hsaid : headers' path.keys) :
    ∃ changed, entries.openTable? path = some changed ∧ changed.MadeBy values headers' ∧
      TableAt path.keys changed := by
  have hself : Beneath path.keys headers' [] := by rwa [Beneath, List.append_nil]
  refine h.atHeader? (fun _ => id) hheaders hclear hsaid
    (.inr ⟨.header, [], rfl, .table nofun (fun _ => hself) ⟨[], hself⟩ madeBy_nil⟩) ?_
  intro origin inner hmade
  cases hmade with
  | table hdotted hheader hsome hinner =>
    cases origin with
    | passage =>
      exact ⟨.header, inner, rfl, .table nofun (fun _ => hself) ⟨[], hself⟩
        fun key node hnode => (hinner key node hnode).mono (fun _ => id) fun _ => hheaders _⟩
    | header => exact absurd (hheader rfl) (by rwa [Beneath, List.append_nil])
    | dotted => exact absurd rfl hdotted

/-- An entry can be added under the header in force. -/
theorem MadeBy.insertAt? {header : Path} (h : entries.MadeBy values headers)
    (htable : TableAt header.keys entries) (hheader : headers header.keys)
    (hvalues : ∀ keys, values keys → values' keys)
    (hapart : ∀ keys, values' keys → ∀ more, headers more → ¬ keys <+: more)
    (hnew : ¬ values (header.keys ++ [key])) (hsaid : values' (header.keys ++ [key]))
    (value : Value) :
    ∃ changed, entries.insertAt? header ⟨[], key⟩ value = some changed ∧
      changed.MadeBy values' headers ∧ TableAt header.keys changed := by
  refine h.atHeader? hvalues (fun _ => id)
    (fun keys hkeys hvalue => hapart keys (hvalues keys hvalue) _ hheader hkeys) hheader
    (.inl htable) ?_
  intro origin inner hmade
  cases hmade with
  | table hdotted horigin hsome hinner =>
    have hnone (keys : List Text) : ¬ Beneath header.keys headers (key :: keys) :=
      fun hkeys => hapart _ hsaid _ hkeys ⟨keys, List.append_assoc _ _ _⟩
    obtain ⟨changed, hchanged, hlater⟩ :=
      MadeBy.insertPath? hinner (fun _ => hvalues _) (fun _ => id) hnew hnone hsaid value
    exact ⟨origin, changed, by simp only [hchanged, Option.map_some],
      .table hdotted horigin hsome hlater⟩

/-- An entry can be added under the header in force, or before the first one. -/
theorem MadeBy.insertBelow? {header : Option Path} (h : entries.MadeBy values headers)
    (hheader : ∀ path ∈ header, headers path.keys ∧ TableAt path.keys entries)
    (hvalues : ∀ keys, values keys → values' keys)
    (hapart : ∀ keys, values' keys → ∀ more, headers more → ¬ keys <+: more)
    (hnew : ¬ values (header.elim [] Path.keys ++ [key]))
    (hsaid : values' (header.elim [] Path.keys ++ [key])) (value : Value) :
    ∃ now, insertBelow? header ⟨[], key⟩ value entries = some now ∧ now.MadeBy values' headers ∧
      ∀ path ∈ header, headers path.keys ∧ TableAt path.keys now := by
  cases header with
  | none =>
    have hnone (keys : List Text) : ¬ headers (key :: keys) :=
      fun hkeys => hapart [key] hsaid _ hkeys ⟨keys, rfl⟩
    obtain ⟨now, hnow, hmade⟩ := h.insertPath? hvalues (fun _ => id) hnew hnone hsaid value
    exact ⟨now, hnow, hmade, nofun⟩
  | some header =>
    obtain ⟨hmem, htable⟩ := hheader header rfl
    obtain ⟨now, hnow, hmade, hthere⟩ := h.insertAt? htable hmem hvalues hapart hnew hsaid value
    refine ⟨now, hnow, hmade, ?_⟩
    rintro path ⟨⟩
    exact ⟨hmem, hthere⟩

end Entries

theorem not_mem_of_nodup {said rest : List (List Text)} {keys : List Text}
    (h : (said ++ keys :: rest).Nodup) : keys ∉ said :=
  fun hmem => (List.nodup_append.mp h).2.2 keys hmem keys (by simp) rfl

/-- Distinct statements are carried out one after another, by induction on them: what was made so
far comes from the entries and the headers so far. -/
theorem exists_buildFrom {statements : List Statement} {header : Option Path}
    {values headers : List (List Text)} (h : entries.MadeBy (· ∈ values) (· ∈ headers))
    (hheader : ∀ path ∈ header, path.keys ∈ headers ∧ TableAt path.keys entries)
    (hplain : ∀ statement ∈ statements, statement.IsPlain)
    (hheaders : (headers ++ headerKeys statements).Nodup)
    (hvalues : (values ++ entryKeys header statements).Nodup)
    (hapart : ∀ keys ∈ values ++ entryKeys header statements,
      ∀ more ∈ headers ++ headerKeys statements, ¬ keys <+: more) :
    ∃ result, buildFrom header entries statements = some result := by
  induction statements generalizing header entries values headers with
  | nil => exact ⟨entries, rfl⟩
  | cons statement statements ih =>
    rw [List.forall_mem_cons] at hplain
    cases hplain.1 with
    | header path =>
      have hkeys : headerKeys (.header path :: statements) = path.keys :: headerKeys statements :=
        rfl
      rw [hkeys] at hheaders hapart
      have hnew := not_mem_of_nodup hheaders
      have hclear : ∀ keys, keys <+: path.keys → keys ∉ values := fun keys hprefix hmem =>
        hapart keys (List.mem_append_left _ hmem) path.keys (by simp) hprefix
      rw [List.append_cons] at hheaders hapart
      have hsaid : path.keys ∈ headers ++ [path.keys] := List.mem_concat_self
      obtain ⟨now, hnow, hmade, htable⟩ :=
        h.openTable? (fun _ => List.mem_append_left _) hclear hnew hsaid
      have hthere : ∀ other ∈ some path, other.keys ∈ headers ++ [path.keys] ∧
          TableAt other.keys now := by
        rintro other ⟨⟩
        exact ⟨hsaid, htable⟩
      obtain ⟨result, hresult⟩ := ih hmade hthere hplain.2 hheaders hvalues hapart
      exact ⟨result, buildFrom_header_eq_some_iff.mpr ⟨now, hnow, hresult⟩⟩
    | entry key value =>
      have hkeys : entryKeys header (.entry ⟨[], key⟩ value :: statements) =
          (header.elim [] Path.keys ++ [key]) :: entryKeys header statements := rfl
      rw [hkeys] at hvalues hapart
      have hnew := not_mem_of_nodup hvalues
      rw [List.append_cons] at hvalues hapart
      have hlater : ∀ keys ∈ values ++ [header.elim [] Path.keys ++ [key]], ∀ more ∈ headers,
          ¬ keys <+: more := fun keys hmem more hmore =>
        hapart keys (List.mem_append_left _ hmem) more (List.mem_append_left _ hmore)
      obtain ⟨now, hnow, hmade, hthere⟩ := h.insertBelow? hheader
        (fun _ => List.mem_append_left _) hlater hnew List.mem_concat_self value
      obtain ⟨result, hresult⟩ := ih hmade hthere hplain.2 hheaders hvalues hapart
      exact ⟨result, buildFrom_entry_eq_some_iff.mpr ⟨now, hnow, hresult⟩⟩

/-- Distinct statements make a document. -/
theorem Distinct.exists_build? {statements : List Statement} (h : Distinct statements) :
    ∃ document, build? statements = some document := by
  have hnone : Entries.MadeBy (· ∈ ([] : List (List Text))) (· ∈ ([] : List (List Text))) [] :=
    Entries.madeBy_nil
  have hheader : ∀ path ∈ (none : Option Path), path.keys ∈ ([] : List (List Text)) ∧
      TableAt path.keys [] := nofun
  obtain ⟨result, hresult⟩ :=
    exists_buildFrom hnone hheader h.plain h.headers h.entries h.apart
  exact ⟨_, Option.map_eq_some_iff.mpr ⟨result, hresult, rfl⟩⟩

end Distinct

end BenchRelay.Toml
