import BenchRelay.Message.Read
import BenchRelay.Proofs.JsonReading

/-!
# The texts of messages

Which values say a message is a matter of their members alone, or of their items; which texts are
read as one follows from what the readers of values accept. The reader of messages takes the members
of an object one at a time and judges the kind where it meets it, but a member more or less that is
neither the kind nor the data makes no difference, nor does the order of the members.
-/

namespace BenchRelay.Message

open BenchRelay.Json (Written Blank Stops IsText)

/-- The members with a name, in their order. -/
def named (name : Text) (members : List (Text × Json)) : List (Text × Json) :=
  members.filter (·.1 == name)

/-- The members with other names, in their order. -/
def besides (name : Text) (members : List (Text × Json)) : List (Text × Json) :=
  members.filter (·.1 != name)

section Named

variable {name key : Text} {item : Json} {members : List (Text × Json)}

theorem named_cons_self : named name ((name, item) :: members) =
    (name, item) :: named name members := by
  simp [named]

theorem named_cons_of_ne (h : key ≠ name) :
    named name ((key, item) :: members) = named name members := by
  simp [named, h]

theorem besides_cons_self : besides name ((name, item) :: members) = besides name members := by
  simp [besides]

theorem besides_cons_of_ne (h : key ≠ name) :
    besides name ((key, item) :: members) = (key, item) :: besides name members := by
  simp [besides, h]

theorem named_besides (h : name ≠ key) : named name (besides key members) = named name members := by
  rw [named, besides, List.filter_filter, named]
  congr 1
  funext member
  by_cases hmember : member.1 = name
  · simp [hmember, h]
  · simp [hmember]

theorem fst_of_mem_named {member : Text × Json} (h : member ∈ named name members) :
    member.1 = name :=
  beq_iff_eq.mp (List.mem_filter.mp h).2

end Named

/-- The message that a value says: an object by its only member `type` and, for a line of output,
its only member `data`; an array by its items. -/
inductive Says : Json → Message → Prop
  | done {members : List (Text × Json)}
      (htype : named "type" members = [("type".toList, .string "done")]) :
      Says (.object members) .done
  | stdout {members : List (Text × Json)} {data : Text}
      (htype : named "type" members = [("type".toList, .string "stdout")])
      (hdata : named "data" members = [("data".toList, .string data)]) :
      Says (.object members) (.stdout data)
  | doneItem : Says (.array [.string "done"]) .done
  | stdoutItems {data : Text} : Says (.array [.string "stdout", .string data]) (.stdout data)

/-! ### Kinds -/

theorem ofName?_eq_some_iff {name : Text} {kind : Kind} :
    Kind.ofName? name = some kind ↔ name = kind.name := by
  constructor
  · intro h
    unfold Kind.ofName? at h
    split at h
    · next hname => cases h; exact hname
    · split at h
      · next hname => cases h; exact hname
      · simp at h
  · rintro rfl
    cases kind <;> rfl

/-- A kind is read where its name is read as a string. -/
theorem readKind_eq_ok_iff {text rest : Text} {kind : Kind} :
    readKind text = .ok (kind, rest) ↔
      Json.readValue innerDepth text = .ok (.string kind.name, rest) := by
  constructor
  · intro h
    unfold readKind at h
    split at h
    · simp at h
    · simp at h
    · rw [Json.bind_eq_ok_iff] at h
      obtain ⟨⟨value, behind⟩, hread, h⟩ := h
      dsimp only at h
      split at h
      · split at h
        · next hname =>
          cases h
          rw [hread, ofName?_eq_some_iff.mp hname]
        · simp at h
      · simp at h
  · intro h
    obtain ⟨written, hwritten, rfl⟩ := Json.written_of_readValueFrom h
    cases hwritten
    unfold readKind
    split
    · next hbracket => exact absurd (List.cons.inj hbracket).1 (by decide)
    · next hbracket => exact absurd (List.cons.inj hbracket).1 (by decide)
    · simp only [h, Json.ok_bind, ofName?_eq_some_iff.mpr rfl]

/-! ### Objects -/

/-- What the members of an object come to behind those already read. -/
inductive Gathers : Members → List (Text × Json) → Members → Prop
  | nil {members : Members} : Gathers members [] members
  | type {members last : Members} {kind : Kind} {rest : List (Text × Json)}
      (hnone : members.kind = none) (h : Gathers { members with kind := some kind } rest last) :
      Gathers members (("type".toList, .string kind.name) :: rest) last
  | other {members last : Members} {name : Text} {item : Json} {rest : List (Text × Json)}
      (hname : name ≠ "type".toList)
      (h : Gathers { members with others := members.others ++ [(name, item)] } rest last) :
      Gathers members ((name, item) :: rest) last

/-- The member that says the kind, if it is known. -/
def Members.typed (members : Members) : List (Text × Json) :=
  members.kind.toList.map fun kind => ("type".toList, .string kind.name)

theorem Members.eq_of_typed {a b : Members} (htyped : a.typed = b.typed)
    (hothers : a.others = b.others) : a = b := by
  obtain ⟨kind, others⟩ := a
  obtain ⟨kind', others'⟩ := b
  cases hothers
  have hname : ∀ {k l : Kind}, k.name = l.name → k = l := by
    intro k l
    cases k <;> cases l <;> decide
  cases kind <;> cases kind' <;> simp_all [typed]
  exact hname htyped

/-- Members are gathered if at most one of them is named `type`, and that one says a kind. -/
theorem gathers_iff {start last : Members} {read : List (Text × Json)} :
    Gathers start read last ↔ last.typed = start.typed ++ named "type" read ∧
      last.others = start.others ++ besides "type" read := by
  constructor
  · intro h
    induction h with
    | nil => simp [named, besides]
    | @type members last kind rest hnone _ ih =>
      have hstart : members.typed = [] := by rw [Members.typed, hnone]; rfl
      rw [named_cons_self, besides_cons_self, hstart]
      exact ih
    | other hname _ ih =>
      rw [named_cons_of_ne hname, besides_cons_of_ne hname, List.append_cons]
      exact ih
  · rintro ⟨htyped, hothers⟩
    induction read generalizing start with
    | nil =>
      obtain rfl : last = start := Members.eq_of_typed (by simpa [named] using htyped)
        (by simpa [besides] using hothers)
      exact .nil
    | cons member read ih =>
      obtain ⟨name, item⟩ := member
      by_cases hname : name = "type".toList
      · subst hname
        rw [named_cons_self] at htyped
        rw [besides_cons_self] at hothers
        -- a known kind would be a second member `type`
        obtain ⟨known, others⟩ := start
        obtain ⟨said, lastOthers⟩ := last
        cases known with
        | some kind => cases said <;> simp [Members.typed] at htyped
        | none =>
          cases said with
          | none => simp [Members.typed] at htyped
          | some kind =>
            simp only [Members.typed, Option.toList_some, Option.toList_none, List.map_cons,
              List.map_nil, List.nil_append, List.cons.injEq, Prod.mk.injEq, true_and] at htyped
            obtain ⟨rfl, hnone⟩ := htyped
            exact .type rfl (ih (by rw [← hnone]; simp [Members.typed]) hothers)
      · rw [named_cons_of_ne hname] at htyped
        rw [besides_cons_of_ne hname, List.append_cons] at hothers
        exact .other hname (ih htyped hothers)

/-- An object says the message that its members come to. -/
theorem says_object_iff {members : List (Text × Json)} {message : Message} :
    Says (.object members) message ↔
      ∃ last, Gathers {} members last ∧ last.message = .ok message := by
  have hne : "data".toList ≠ "type".toList := by decide
  constructor
  · intro h
    cases h with
    | done htype =>
      exact ⟨⟨some .done, besides "type" members⟩, gathers_iff.mpr ⟨htype.symm, rfl⟩, rfl⟩
    | stdout htype hdata =>
      refine ⟨⟨some .stdout, besides "type" members⟩, gathers_iff.mpr ⟨htype.symm, rfl⟩, ?_⟩
      have hothers : named "data" (besides "type" members) = [("data".toList, .string _)] :=
        (named_besides hne).trans hdata
      rw [named] at hothers
      simp only [Members.message, hothers]
  · rintro ⟨⟨kind, others⟩, hgathers, hmessage⟩
    obtain ⟨htype, rfl⟩ := gathers_iff.mp hgathers
    cases kind with
    | none => simp [Members.message] at hmessage
    | some kind =>
      cases kind with
      | done =>
        cases hmessage
        exact .done htype.symm
      | stdout =>
        simp only [Members.message] at hmessage
        split at hmessage
        · next name data hdata =>
          cases hmessage
          change named "data" (besides "type" members) = _ at hdata
          rw [named_besides hne] at hdata
          have hname : name = "data".toList :=
            fst_of_mem_named (hdata ▸ List.mem_singleton_self (name, Json.string data))
          exact .stdout htype.symm (hname ▸ hdata)
        · simp at hmessage

/-- Read the member of a name behind the members already read. -/
def readMember (members : Members) (name text : Text) : Except Json.Fault (Members × Text) :=
  if name = "type".toList then
    match members.kind with
    | some _ => .error .unfit
    | none => do
      let (kind, rest) ← readKind text
      .ok ({ members with kind := some kind }, rest)
  else do
    let (item, rest) ← Json.readValue innerDepth text
    .ok ({ members with others := members.others ++ [(name, item)] }, rest)

theorem readMembers_succ (fuel : ℕ) (members : Members) (text : Text) :
    readMembers (fuel + 1) members text = (do
      let (name, rest) ← Json.readName text
      let (members, rest) ← readMember members name rest
      match ← Json.readAfter '\x7d' rest with
      | .last rest => .ok (members, rest)
      | .next rest => readMembers fuel members rest) := by
  rw [readMembers]
  rcases Json.readName text with _ | ⟨name, rest⟩
  · rfl
  by_cases hname : name = "type".toList
  · cases hkind : members.kind with
    | some kind => simp only [Json.ok_bind, Json.error_bind, readMember, if_pos hname, hkind]
    | none =>
      simp only [Json.ok_bind, readMember, if_pos hname, hkind]
      cases readKind rest <;> rfl
  · simp only [Json.ok_bind, readMember, if_neg hname]
    cases Json.readValue innerDepth rest <;> rfl

/-- A member is read as its value is, and adds to what the members come to. -/
theorem exists_item_of_readMember {members next : Members} {name text rest : Text}
    (h : readMember members name text = .ok (next, rest)) :
    ∃ item, Json.readValue innerDepth text = .ok (item, rest) ∧
      ∀ {others last}, Gathers next others last →
        Gathers members ((name, item) :: others) last := by
  unfold readMember at h
  split at h
  · next hname =>
    split at h
    · simp at h
    · next hnone =>
      rw [Json.bind_eq_ok_iff] at h
      obtain ⟨⟨kind, behind⟩, hkind, h⟩ := h
      cases h
      exact ⟨_, readKind_eq_ok_iff.mp hkind, fun hothers => hname ▸ .type hnone hothers⟩
  · next hname =>
    rw [Json.bind_eq_ok_iff] at h
    obtain ⟨⟨item, behind⟩, hitem, h⟩ := h
    cases h
    exact ⟨item, hitem, .other hname⟩

theorem readMember_of_gathers {members last : Members} {name text rest : Text} {item : Json}
    {others : List (Text × Json)} (h : Gathers members ((name, item) :: others) last)
    (hitem : Json.readValue innerDepth text = .ok (item, rest)) :
    ∃ next, readMember members name text = .ok (next, rest) ∧ Gathers next others last := by
  cases h with
  | type hnone h =>
    refine ⟨_, ?_, h⟩
    rw [readMember, if_pos rfl, hnone]
    simp only [readKind_eq_ok_iff.mpr hitem, Json.ok_bind]
  | other hname h =>
    refine ⟨_, ?_, h⟩
    rw [readMember, if_neg hname, hitem, Json.ok_bind]

/-- What members are read from is written for them. -/
theorem written_of_readMembers {fuel : ℕ} {start last : Members} {text rest : Text}
    (h : readMembers fuel start text = .ok (last, rest)) :
    ∃ members written after, Written (·.isFinite) innerDepth (.members members) written ∧
      Blank after ∧ text = written ++ after ++ '\x7d' :: rest ∧ Gathers start members last := by
  induction fuel generalizing start text with
  | zero => simp [readMembers] at h
  | succ fuel ih =>
    rw [readMembers_succ, Json.bind_eq_ok_iff] at h
    obtain ⟨⟨name, behind⟩, hname, h⟩ := h
    obtain ⟨label, hlabel, rfl, -⟩ := Json.readName_eq_ok_iff.mp hname
    rw [Json.bind_eq_ok_iff] at h
    obtain ⟨⟨next, behind⟩, hmember, h⟩ := h
    obtain ⟨item, hitem, hgathers⟩ := exists_item_of_readMember hmember
    obtain ⟨first, hfirst, rfl⟩ := Json.written_of_readValueFrom hitem
    rw [Json.bind_eq_ok_iff] at h
    obtain ⟨follows, hfollows, h⟩ := h
    cases follows with
    | last later =>
      cases h
      obtain ⟨after, hafter, rfl⟩ :=
        (Json.readAfter_eq_last_iff (by decide) (by decide)).mp hfollows
      exact ⟨_, _, after, .lastMember hlabel hfirst, hafter, by simp, hgathers .nil⟩
    | next later =>
      obtain ⟨comma, hcomma, rfl, -⟩ := Json.readAfter_eq_next_iff.mp hfollows
      obtain ⟨others, written, after, hwritten, hafter, rfl, hothers⟩ := ih h
      exact ⟨_, _, after, .member hlabel hfirst hcomma hwritten, hafter, by simp,
        hgathers hothers⟩

/-- Members that can be gathered are read from every text written for them. -/
theorem readMembers_of_written {start last : Members} {members : List (Text × Json)}
    {written : Text} (hwritten : Written (·.isFinite) innerDepth (.members members) written)
    (hgathers : Gathers start members last) {fuel : ℕ} (hfuel : written.length ≤ fuel)
    {after : Text} (hafter : Blank after) (rest : Text) :
    readMembers fuel start (written ++ after ++ '\x7d' :: rest) = .ok (last, rest) := by
  induction members generalizing start written fuel with
  | nil => nomatch hwritten
  | cons member members ih =>
    obtain ⟨c, later, heq, -⟩ := hwritten.exists_cons
    obtain ⟨fuel, rfl⟩ := Json.exists_later hfuel (by simp [heq])
    rw [readMembers_succ]
    cases hwritten with
    | lastMember hname h =>
      have hbehind : Stops Json.continuesNumber (after ++ '\x7d' :: rest) :=
        hafter.stops_append (Json.stops_cons_iff.mpr rfl)
      obtain ⟨next, hmember, hnext⟩ :=
        readMember_of_gathers hgathers (Json.readValue_append h hbehind)
      cases hnext
      simp only [List.append_assoc]
      rw [Json.readName_append hname (h.stops _), Json.ok_bind]
      dsimp only
      rw [hmember, Json.ok_bind]
      dsimp only
      rw [Json.readAfter_last (by decide) (by decide) hafter, Json.ok_bind]
    | @member _ name item _ label first comma others hname hfirst hcomma hrest =>
      have hbehind : Stops Json.continuesNumber (comma ++ (others ++ (after ++ '\x7d' :: rest))) :=
        hcomma.stops_append _
      obtain ⟨next, hmember, hnext⟩ :=
        readMember_of_gathers hgathers (Json.readValue_append hfirst hbehind)
      have hlength := hcomma.length_pos
      simp only [List.length_append] at hfuel
      have hothers := ih hrest hnext (show others.length ≤ fuel by omega)
      simp only [List.append_assoc] at hothers ⊢
      rw [Json.readName_append hname (hfirst.stops _), Json.ok_bind]
      dsimp only
      rw [hmember, Json.ok_bind]
      dsimp only
      rw [Json.readAfter_next hcomma (hrest.stops _), Json.ok_bind]
      dsimp only
      rw [hothers]

/-- A message is read behind the first bracket of an object that says it. -/
theorem readObject_eq_ok_iff {text rest : Text} {message : Message} :
    readObject text = .ok (message, rest) ↔
      ∃ members before written after, Blank before ∧
        Written (·.isFinite) innerDepth (.members members) written ∧ Blank after ∧
        text = before ++ written ++ after ++ '\x7d' :: rest ∧ Says (.object members) message := by
  constructor
  · intro h
    obtain ⟨before, hbefore, htext⟩ := Json.exists_blank text
    unfold readObject at h
    split at h
    · simp [Members.message, bind, Except.bind] at h
    · rw [Json.bind_eq_ok_iff] at h
      obtain ⟨⟨last, behind⟩, hread, h⟩ := h
      rw [Json.bind_eq_ok_iff] at h
      obtain ⟨said, hmessage, h⟩ := h
      cases h
      obtain ⟨members, written, after, hwritten, hafter, hskip, hgathers⟩ :=
        written_of_readMembers hread
      exact ⟨members, before, written, after, hbefore, hwritten, hafter,
        by rw [htext, hskip]; simp, says_object_iff.mpr ⟨last, hgathers, hmessage⟩⟩
  · rintro ⟨members, before, written, after, hbefore, hwritten, hafter, rfl, hmeans⟩
    obtain ⟨last, hgathers, hmessage⟩ := says_object_iff.mp hmeans
    have hread := readMembers_of_written hwritten hgathers
      (show written.length ≤ (written ++ after ++ '\x7d' :: rest).length + 1 by
        simp only [List.length_append]; omega) hafter rest
    rw [List.append_assoc] at hread ⊢
    unfold readObject
    rw [hwritten.skip_blank hbefore]
    split
    · next hbracket => exact absurd hbracket (hwritten.append_ne_cons (by decide))
    · rw [hread, Json.ok_bind]
      dsimp only
      rw [hmessage, Json.ok_bind]

/-! ### Arrays -/

theorem says_array_iff {items : List Json} {message : Message} :
    Says (.array items) message ↔
      ∃ kind others, items = .string kind.name :: others ∧ ofItems kind others = .ok message := by
  constructor
  · intro h
    cases h with
    | doneItem => exact ⟨.done, [], rfl, rfl⟩
    | stdoutItems => exact ⟨.stdout, [.string _], rfl, rfl⟩
  · rintro ⟨kind, others, rfl, h⟩
    unfold ofItems at h
    split at h
    · cases h
      exact .doneItem
    · cases h
      exact .stdoutItems
    · simp at h

/-- A message is read behind the first bracket of an array that says it. -/
theorem readArray_eq_ok_iff {text rest : Text} {message : Message} :
    readArray text = .ok (message, rest) ↔
      ∃ items before written after, Blank before ∧
        Written (·.isFinite) innerDepth (.items items) written ∧ Blank after ∧
        text = before ++ written ++ after ++ ']' :: rest ∧ Says (.array items) message := by
  constructor
  · intro h
    obtain ⟨before, hbefore, htext⟩ := Json.exists_blank text
    unfold readArray at h
    split at h
    · simp at h
    rw [Json.bind_eq_ok_iff] at h
    obtain ⟨⟨kind, behind⟩, hkind, h⟩ := h
    obtain ⟨first, hfirst, hskip⟩ := Json.written_of_readValueFrom (readKind_eq_ok_iff.mp hkind)
    rw [Json.bind_eq_ok_iff] at h
    obtain ⟨follows, hfollows, h⟩ := h
    cases follows with
    | last later =>
      obtain ⟨after, hafter, rfl⟩ :=
        (Json.readAfter_eq_last_iff (by decide) (by decide)).mp hfollows
      dsimp only at h
      rw [Json.ok_bind, Json.bind_eq_ok_iff] at h
      obtain ⟨said, hsaid, h⟩ := h
      cases h
      exact ⟨_, before, first, after, hbefore, .lastItem hfirst, hafter,
        by rw [htext, hskip]; simp, says_array_iff.mpr ⟨kind, [], rfl, hsaid⟩⟩
    | next later =>
      obtain ⟨comma, hcomma, rfl, -⟩ := Json.readAfter_eq_next_iff.mp hfollows
      obtain ⟨⟨others, behind⟩, hothers, h⟩ := Json.bind_eq_ok_iff.mp h
      obtain ⟨said, hsaid, h⟩ := Json.bind_eq_ok_iff.mp h
      cases h
      obtain ⟨written, after, hwritten, hafter, rfl⟩ := Json.written_of_readItemsFrom hothers
      exact ⟨_, before, _, after, hbefore, .item hfirst hcomma hwritten, hafter,
        by rw [htext, hskip]; simp, says_array_iff.mpr ⟨kind, others, rfl, hsaid⟩⟩
  · rintro ⟨items, before, written, after, hbefore, hwritten, hafter, rfl, hmeans⟩
    obtain ⟨kind, others, rfl, hmessage⟩ := says_array_iff.mp hmeans
    rw [List.append_assoc]
    unfold readArray
    rw [hwritten.skip_blank hbefore]
    split
    · next hbracket => exact absurd hbracket (hwritten.append_ne_cons (by decide))
    cases hwritten with
    | lastItem h =>
      have hbehind : Stops Json.continuesNumber (after ++ ']' :: rest) :=
        hafter.stops_append (Json.stops_cons_iff.mpr rfl)
      rw [readKind_eq_ok_iff.mpr (Json.readValue_append h hbehind), Json.ok_bind]
      dsimp only
      rw [Json.readAfter_last (by decide) (by decide) hafter, Json.ok_bind]
      dsimp only
      rw [Json.ok_bind]
      dsimp only
      rw [hmessage, Json.ok_bind]
    | @item _ _ _ first comma written hfirst hcomma hrest =>
      have hbehind : Stops Json.continuesNumber (comma ++ (written ++ (after ++ ']' :: rest))) :=
        hcomma.stops_append _
      have hothers := hrest.readBack (Json.fuelFor (written ++ (after ++ ']' :: rest))) after rest
        (by simp only [Json.fuelFor, List.length_append]; omega) hafter
      simp only [List.append_assoc] at hothers ⊢
      rw [readKind_eq_ok_iff.mpr (Json.readValue_append hfirst hbehind), Json.ok_bind]
      dsimp only
      rw [Json.readAfter_next hcomma (hrest.stops _), Json.ok_bind]
      dsimp only
      rw [hothers, Json.ok_bind]
      dsimp only
      rw [hmessage, Json.ok_bind]

/-! ### Texts -/

/-- The texts that are read as a message are those of the values that say it. -/
theorem read_eq_ok_iff {text : Text} {message : Message} :
    read text = .ok message ↔
      ∃ value, IsText (·.isFinite) depthLimit value text ∧ Says value message := by
  constructor
  · intro h
    obtain ⟨before, hbefore, htext⟩ := Json.exists_blank text
    unfold read at h
    dsimp only at h
    split at h
    · next behind hskip =>
      obtain ⟨⟨said, later⟩, hread, h⟩ := Json.bind_eq_ok_iff.mp h
      dsimp only at h
      split at h
      · next hlast =>
        cases h
        obtain ⟨members, inner, written, after, hinner, hwritten, hafter, rfl, hmeans⟩ :=
          readObject_eq_ok_iff.mp hread
        exact ⟨.object members, ⟨before, _, later, hbefore, Json.skipSpaces_eq_nil_iff.mp hlast,
          by rw [htext, hskip]; simp, .object hinner hwritten hafter⟩, hmeans⟩
      · simp at h
    · next behind hskip =>
      obtain ⟨⟨said, later⟩, hread, h⟩ := Json.bind_eq_ok_iff.mp h
      dsimp only at h
      split at h
      · next hlast =>
        cases h
        obtain ⟨items, inner, written, after, hinner, hwritten, hafter, rfl, hmeans⟩ :=
          readArray_eq_ok_iff.mp hread
        exact ⟨.array items, ⟨before, _, later, hbefore, Json.skipSpaces_eq_nil_iff.mp hlast,
          by rw [htext, hskip]; simp, .array hinner hwritten hafter⟩, hmeans⟩
      · simp at h
    · obtain ⟨_, -, h⟩ := Json.bind_eq_ok_iff.mp h
      simp [bind, Except.bind] at h
  · rintro ⟨value, ⟨before, written, after, hbefore, hafter, rfl, hwritten⟩, hmeans⟩
    have hlast : Json.skipSpaces after = [] := Json.skipSpaces_eq_nil_iff.mpr hafter
    unfold read
    dsimp only
    rw [hwritten.skip_blank hbefore]
    cases hwritten with
    | @array _ items inner others behind hinner hothers hbehind =>
      have hread : readArray (inner ++ others ++ behind ++ ']' :: after) = .ok (message, after) :=
        readArray_eq_ok_iff.mpr
          ⟨items, inner, others, behind, hinner, hothers, hbehind, rfl, hmeans⟩
      simp only [List.cons_append, List.append_assoc, List.nil_append] at hread ⊢
      rw [hread, Json.ok_bind]
      simp only [hlast, if_true]
    | @object _ members inner others behind hinner hothers hbehind =>
      have hread : readObject (inner ++ others ++ behind ++ '\x7d' :: after) =
          .ok (message, after) :=
        readObject_eq_ok_iff.mpr
          ⟨members, inner, others, behind, hinner, hothers, hbehind, rfl, hmeans⟩
      simp only [List.cons_append, List.append_assoc, List.nil_append] at hread ⊢
      rw [hread, Json.ok_bind]
      simp only [hlast, if_true]
    | noItems => nomatch hmeans
    | noMembers =>
      cases hmeans with
      | done htype | stdout htype => simp [named] at htype
    | null | true | false | number | string => nomatch hmeans

end BenchRelay.Message
