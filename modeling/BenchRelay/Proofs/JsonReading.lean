import BenchRelay.Proofs.JsonNumbers
import BenchRelay.Proofs.JsonStrings

/-!
# Reading values

What a value is read from is written for it, and every text written for a value is read as that
value, whatever follows that a number would not go on with. So the reader accepts the language of
the grammar, and the grammar is unambiguous.
-/

namespace BenchRelay.Json

/-! ### Only what is written is read -/

/-- What stands behind the first bracket of an array, if its items are written as they are read. -/
theorem array_of_match {fuel depth : Nat} {text rest : Text} {value : Json}
    (hitems : ∀ {text rest : Text} {items : List Json},
      readItemsFrom fuel depth text = .ok (items, rest) →
        ∃ written after, Written (·.isFinite) depth (.items items) written ∧ Blank after ∧
          text = written ++ after ++ ']' :: rest)
    (h : (match skipSpaces text with
      | ']' :: rest => .ok (.array [], rest)
      | rest => do
        let (items, rest) ← readItemsFrom fuel depth rest
        .ok (.array items, rest)) = Except.ok (value, rest)) :
    ∃ written, Written (·.isFinite) (depth + 1) (.value value) ('[' :: written) ∧
      text = written ++ rest := by
  obtain ⟨before, hbefore, htext⟩ := exists_blank text
  split at h
  · next hskip =>
    cases h
    exact ⟨_, .noItems hbefore, by rw [htext, hskip]; simp⟩
  · rw [bind_eq_ok_iff] at h
    obtain ⟨⟨items, behind⟩, hread, h⟩ := h
    cases h
    obtain ⟨written, after, hwritten, hafter, hskip⟩ := hitems hread
    exact ⟨_, .array hbefore hwritten hafter, by rw [htext, hskip]; simp⟩

/-- What stands behind the first bracket of an object, if its members are written as they are
read. -/
theorem object_of_match {fuel depth : Nat} {text rest : Text} {value : Json}
    (hmembers : ∀ {text rest : Text} {members : List (Text × Json)},
      readMembersFrom fuel depth text = .ok (members, rest) →
        ∃ written after, Written (·.isFinite) depth (.members members) written ∧ Blank after ∧
          text = written ++ after ++ '\x7d' :: rest)
    (h : (match skipSpaces text with
      | '\x7d' :: rest => .ok (.object [], rest)
      | rest => do
        let (members, rest) ← readMembersFrom fuel depth rest
        .ok (.object members, rest)) = Except.ok (value, rest)) :
    ∃ written, Written (·.isFinite) (depth + 1) (.value value) ('\x7b' :: written) ∧
      text = written ++ rest := by
  obtain ⟨before, hbefore, htext⟩ := exists_blank text
  split at h
  · next hskip =>
    cases h
    exact ⟨_, .noMembers hbefore, by rw [htext, hskip]; simp⟩
  · rw [bind_eq_ok_iff] at h
    obtain ⟨⟨members, behind⟩, hread, h⟩ := h
    cases h
    obtain ⟨written, after, hwritten, hafter, hskip⟩ := hmembers hread
    exact ⟨_, .object hbefore hwritten hafter, by rw [htext, hskip]; simp⟩

/-- A word that stands for a value is read whole. -/
theorem readWord_bind_eq_ok_iff {α : Type} {expected text rest : Text} {x y : α} :
    (readWord expected text >>= fun rest => Except.ok (x, rest)) = .ok (y, rest) ↔
      x = y ∧ text = expected ++ rest := by
  simp only [bind_eq_ok_iff, readWord_eq_ok_iff, Except.ok.injEq, Prod.mk.injEq]
  constructor
  · rintro ⟨_, htext, hx, rfl⟩
    exact ⟨hx, htext⟩
  · rintro ⟨hx, htext⟩
    exact ⟨rest, htext, hx, rfl⟩

mutual

theorem written_of_readValueFrom {fuel depth : Nat} {text rest : Text} {value : Json}
    (h : readValueFrom fuel depth text = .ok (value, rest)) :
    ∃ written, Written (·.isFinite) depth (.value value) written ∧ text = written ++ rest := by
  cases fuel with
  | zero => simp [readValueFrom] at h
  | succ fuel =>
  cases text with
  | nil => simp [readValueFrom] at h
  | cons c text =>
  unfold readValueFrom at h
  -- the cases are those of the first character
  split at h
  · next hc =>
    rw [bind_eq_ok_iff] at h
    obtain ⟨⟨read, behind⟩, hread, h⟩ := h
    cases h
    obtain ⟨written, hwritten, rfl⟩ := readString_eq_ok_iff.mp hread
    exact ⟨_, .string hwritten, by simp [hc]⟩
  split at h
  · next hc =>
    cases depth with
    | zero => simp at h
    | succ depth =>
    obtain ⟨written, hwritten, rfl⟩ := array_of_match written_of_readItemsFrom h
    exact ⟨_, hwritten, by simp [hc]⟩
  split at h
  · next hc =>
    cases depth with
    | zero => simp at h
    | succ depth =>
    obtain ⟨written, hwritten, rfl⟩ := object_of_match written_of_readMembersFrom h
    exact ⟨_, hwritten, by simp [hc]⟩
  split at h
  · rw [bind_eq_ok_iff] at h
    obtain ⟨⟨numeral, behind⟩, hread, h⟩ := h
    cases h
    obtain ⟨written, hwritten, hfinite, htext⟩ := numberText_of_readNumber hread
    exact ⟨_, .number hwritten hfinite, htext⟩
  split at h
  · next hc =>
    obtain ⟨rfl, rfl⟩ := readWord_bind_eq_ok_iff.mp h
    exact ⟨_, .true, by simp [hc]⟩
  split at h
  · next hc =>
    obtain ⟨rfl, rfl⟩ := readWord_bind_eq_ok_iff.mp h
    exact ⟨_, .false, by simp [hc]⟩
  split at h
  · next hc =>
    obtain ⟨rfl, rfl⟩ := readWord_bind_eq_ok_iff.mp h
    exact ⟨_, .null, by simp [hc]⟩
  · simp at h
termination_by fuel

theorem written_of_readItemsFrom {fuel depth : Nat} {text rest : Text} {items : List Json}
    (h : readItemsFrom fuel depth text = .ok (items, rest)) :
    ∃ written after, Written (·.isFinite) depth (.items items) written ∧ Blank after ∧
      text = written ++ after ++ ']' :: rest := by
  cases fuel with
  | zero => simp [readItemsFrom] at h
  | succ fuel =>
  rw [readItemsFrom, bind_eq_ok_iff] at h
  obtain ⟨⟨item, behind⟩, hitem, h⟩ := h
  obtain ⟨first, hfirst, rfl⟩ := written_of_readValueFrom hitem
  rw [bind_eq_ok_iff] at h
  obtain ⟨follows, hfollows, h⟩ := h
  cases follows with
  | last later =>
    cases h
    obtain ⟨after, hafter, rfl⟩ := (readAfter_eq_last_iff (by decide) (by decide)).mp hfollows
    exact ⟨first, after, .lastItem hfirst, hafter, by simp⟩
  | next later =>
    obtain ⟨comma, hcomma, rfl, -⟩ := readAfter_eq_next_iff.mp hfollows
    rw [bind_eq_ok_iff] at h
    obtain ⟨⟨others, behind⟩, hothers, h⟩ := h
    cases h
    obtain ⟨written, after, hwritten, hafter, rfl⟩ := written_of_readItemsFrom hothers
    exact ⟨_, after, .item hfirst hcomma hwritten, hafter, by simp⟩
termination_by fuel

theorem written_of_readMembersFrom {fuel depth : Nat} {text rest : Text}
    {members : List (Text × Json)} (h : readMembersFrom fuel depth text = .ok (members, rest)) :
    ∃ written after, Written (·.isFinite) depth (.members members) written ∧ Blank after ∧
      text = written ++ after ++ '\x7d' :: rest := by
  cases fuel with
  | zero => simp [readMembersFrom] at h
  | succ fuel =>
  rw [readMembersFrom, bind_eq_ok_iff] at h
  obtain ⟨⟨name, behind⟩, hname, h⟩ := h
  obtain ⟨start, hstart, rfl, -⟩ := readName_eq_ok_iff.mp hname
  rw [bind_eq_ok_iff] at h
  obtain ⟨⟨item, behind⟩, hitem, h⟩ := h
  obtain ⟨first, hfirst, rfl⟩ := written_of_readValueFrom hitem
  rw [bind_eq_ok_iff] at h
  obtain ⟨follows, hfollows, h⟩ := h
  cases follows with
  | last later =>
    cases h
    obtain ⟨after, hafter, rfl⟩ := (readAfter_eq_last_iff (by decide) (by decide)).mp hfollows
    exact ⟨_, after, .lastMember hstart hfirst, hafter, by simp⟩
  | next later =>
    obtain ⟨comma, hcomma, rfl, -⟩ := readAfter_eq_next_iff.mp hfollows
    rw [bind_eq_ok_iff] at h
    obtain ⟨⟨others, behind⟩, hothers, h⟩ := h
    cases h
    obtain ⟨written, after, hwritten, hafter, rfl⟩ := written_of_readMembersFrom hothers
    exact ⟨_, after, .member hstart hfirst hcomma hwritten, hafter, by simp⟩
termination_by fuel

end

/-! ### All that is written is read -/

theorem continuesNumber_of_isSpace {c : Char} (h : isSpace c) : continuesNumber c = false := by
  simp only [isSpace, Bool.or_eq_true, beq_iff_eq] at h
  rcases h with ((rfl | rfl) | rfl) | rfl <;> rfl

theorem Blank.stops_append {blank text : Text} (h : Blank blank)
    (htext : Stops continuesNumber text) : Stops continuesNumber (blank ++ text) := by
  cases blank with
  | nil => exact htext
  | cons c blank => exact stops_cons_iff.mpr (continuesNumber_of_isSpace (h c (by simp)))

theorem Comma.stops_append {comma : Text} (h : Comma comma) (text : Text) :
    Stops continuesNumber (comma ++ text) := by
  obtain ⟨hbefore, -⟩ := h
  rw [List.append_assoc]
  exact hbefore.stops_append (stops_cons_iff.mpr rfl)

theorem Comma.length_pos {comma : Text} (h : Comma comma) : 0 < comma.length := by
  obtain ⟨-, -⟩ := h
  simp only [List.length_append, List.length_cons]
  omega

/-- A number begins with a minus or a digit. -/
theorem NumberText.exists_cons {numeral : Numeral} {text : Text} (h : NumberText numeral text) :
    ∃ c later, text = c :: later ∧ (c = '-' ∨ c.isDigit) := by
  obtain @⟨negative, whole, fraction, exponent, w, f, e, hwhole, -, -⟩ := h
  obtain ⟨c, later, rfl, hc, -⟩ := hwhole.toDigits.exists_cons
  cases negative with
  | true => exact ⟨_, _, rfl, .inl rfl⟩
  | false => exact ⟨_, _, rfl, .inr hc⟩

/-- A character that no blank and no closing bracket is. -/
def opens (c : Char) : Bool := !isSpace c && c != ']' && c != '\x7d'

theorem opens_of_number {c : Char} (h : c = '-' ∨ c.isDigit) : opens c := by
  by_contra hc
  simp only [opens, isSpace, Bool.not_eq_true, Bool.and_eq_false_iff, Bool.not_eq_false',
    Bool.or_eq_true, beq_iff_eq, bne_eq_false_iff_eq] at hc
  rcases hc with ((((rfl | rfl) | rfl) | rfl) | rfl) | rfl <;> simp at h

variable {finite : Numeral → Prop} {depth : Nat}

/-- Every part begins with a character of its own. -/
theorem Written.exists_cons {part : Part} {text : Text} (h : Written finite depth part text) :
    ∃ c later, text = c :: later ∧ opens c := by
  induction h with
  | null | true | false | string | noItems | array | noMembers | object => exact ⟨_, _, rfl, rfl⟩
  | number h =>
    obtain ⟨c, later, rfl, hc⟩ := h.exists_cons
    exact ⟨c, later, rfl, opens_of_number hc⟩
  | lastItem _ ih => exact ih
  | item _ _ _ ih =>
    obtain ⟨c, later, rfl, hc⟩ := ih
    exact ⟨c, _, rfl, hc⟩
  | lastMember hname | member hname =>
    obtain ⟨-, -, -⟩ := hname
    exact ⟨_, _, rfl, rfl⟩

theorem Written.stops {part : Part} {text : Text} (h : Written finite depth part text)
    (rest : Text) : Stops isSpace (text ++ rest) := by
  obtain ⟨c, later, rfl, hc⟩ := h.exists_cons
  simp only [opens, Bool.and_eq_true, Bool.not_eq_true'] at hc
  exact stops_cons_iff.mpr hc.1.1

theorem Written.skip_blank {part : Part} {text : Text} (h : Written finite depth part text)
    {before : Text} (hbefore : Blank before) (rest : Text) :
    skipSpaces (before ++ text ++ rest) = text ++ rest := by
  rw [List.append_assoc]
  exact skipSpaces_append hbefore (h.stops rest)

/-- No part is taken for the end of a list. -/
theorem Written.append_ne_cons {part : Part} {text : Text} (h : Written finite depth part text)
    {closing : Char} (hclosing : ¬ opens closing) {rest later : Text} :
    text ++ rest ≠ closing :: later := by
  obtain ⟨c, text, rfl, hc⟩ := h.exists_cons
  rintro ⟨⟩
  exact hclosing hc

/-- A part is read from a text written for it, given fuel for it, whatever the text goes on with
behind it. -/
def ReadBack (depth : Nat) (text : Text) : Part → Prop
  | .value value => ∀ fuel rest, 2 * text.length ≤ fuel → Stops continuesNumber rest →
      readValueFrom fuel depth (text ++ rest) = .ok (value, rest)
  | .items items => ∀ fuel after rest, 2 * text.length < fuel → Blank after →
      readItemsFrom fuel depth (text ++ after ++ ']' :: rest) = .ok (items, rest)
  | .members members => ∀ fuel after rest, 2 * text.length < fuel → Blank after →
      readMembersFrom fuel depth (text ++ after ++ '\x7d' :: rest) = .ok (members, rest)

theorem readValueFrom_number {c : Char} (hc : c = '-' ∨ c.isDigit) (fuel depth : Nat)
    (text : Text) : readValueFrom (fuel + 1) depth (c :: text) =
      readNumber (c :: text) >>= fun (numeral, rest) => .ok (.number numeral, rest) := by
  have hquote : c ≠ '"' := by rintro rfl; simp at hc
  have harray : c ≠ '[' := by rintro rfl; simp at hc
  have hobject : c ≠ '\x7b' := by rintro rfl; simp at hc
  rw [readValueFrom.eq_def]
  simp only [if_neg hquote, if_neg harray, if_neg hobject, if_pos hc]

/-- Behind the first bracket and blanks the items of an array are read. -/
theorem readValueFrom_array {before text : Text} {items : List Json} (hbefore : Blank before)
    (h : Written finite depth (.items items) text) (fuel : Nat) (rest : Text) :
    readValueFrom (fuel + 1) (depth + 1) ('[' :: (before ++ text ++ rest)) =
      readItemsFrom fuel depth (text ++ rest) >>= fun (items, rest) =>
        .ok (.array items, rest) := by
  rw [readValueFrom.eq_def]
  dsimp only
  rw [if_neg (by decide), if_pos rfl, h.skip_blank hbefore]
  split
  · next heq => exact absurd heq (h.append_ne_cons (by decide))
  · rfl

/-- Behind the first bracket and blanks the members of an object are read. -/
theorem readValueFrom_object {before text : Text} {members : List (Text × Json)}
    (hbefore : Blank before) (h : Written finite depth (.members members) text) (fuel : Nat)
    (rest : Text) :
    readValueFrom (fuel + 1) (depth + 1) ('\x7b' :: (before ++ text ++ rest)) =
      readMembersFrom fuel depth (text ++ rest) >>= fun (members, rest) =>
        .ok (.object members, rest) := by
  rw [readValueFrom.eq_def]
  dsimp only
  rw [if_neg (by decide), if_neg (by decide), if_pos rfl, h.skip_blank hbefore]
  split
  · next heq => exact absurd heq (h.append_ne_cons (by decide))
  · rfl

section Lists

variable {fuel : Nat} {text rest : Text} {item : Json}

theorem readItemsFrom_last {after : Text}
    (hitem : readValueFrom fuel depth text = .ok (item, after ++ ']' :: rest))
    (hafter : Blank after) : readItemsFrom (fuel + 1) depth text = .ok ([item], rest) := by
  rw [readItemsFrom, hitem, ok_bind]
  dsimp only
  rw [readAfter_last (by decide) (by decide) hafter, ok_bind]

theorem readItemsFrom_next {comma later : Text} {items : List Json}
    (hitem : readValueFrom fuel depth text = .ok (item, comma ++ later)) (hcomma : Comma comma)
    (hlater : Stops isSpace later) (hitems : readItemsFrom fuel depth later = .ok (items, rest)) :
    readItemsFrom (fuel + 1) depth text = .ok (item :: items, rest) := by
  rw [readItemsFrom, hitem, ok_bind]
  dsimp only
  rw [readAfter_next hcomma hlater, ok_bind]
  dsimp only
  rw [hitems, ok_bind]

theorem readMembersFrom_last {name start after : Text} (hname : NameText name start)
    (hitem : readValueFrom fuel depth text = .ok (item, after ++ '\x7d' :: rest))
    (htext : Stops isSpace text) (hafter : Blank after) :
    readMembersFrom (fuel + 1) depth (start ++ text) = .ok ([(name, item)], rest) := by
  rw [readMembersFrom, readName_append hname htext, ok_bind]
  dsimp only
  rw [hitem, ok_bind]
  dsimp only
  rw [readAfter_last (by decide) (by decide) hafter, ok_bind]

theorem readMembersFrom_next {name start comma later : Text} {members : List (Text × Json)}
    (hname : NameText name start)
    (hitem : readValueFrom fuel depth text = .ok (item, comma ++ later))
    (htext : Stops isSpace text) (hcomma : Comma comma) (hlater : Stops isSpace later)
    (hmembers : readMembersFrom fuel depth later = .ok (members, rest)) :
    readMembersFrom (fuel + 1) depth (start ++ text) = .ok ((name, item) :: members, rest) := by
  rw [readMembersFrom, readName_append hname htext, ok_bind]
  dsimp only
  rw [hitem, ok_bind]
  dsimp only
  rw [readAfter_next hcomma hlater, ok_bind]
  dsimp only
  rw [hmembers, ok_bind]

end Lists

theorem exists_later {length fuel : Nat} (h : length ≤ fuel) (hlength : 0 < length) :
    ∃ later, fuel = later + 1 :=
  Nat.exists_eq_add_one_of_ne_zero (by omega)

/-- Every part is read back from every text written for it. -/
theorem Written.readBack {part : Part} {text : Text}
    (h : Written (·.isFinite) depth part text) : ReadBack depth text part := by
  -- each rule takes a step of fuel for itself and leaves two for every character of its parts
  induction h with
  | null | true | false =>
    intro fuel rest hfuel _
    obtain ⟨fuel, rfl⟩ := exists_later hfuel (by simp)
    rfl
  | @number depth numeral text h hfinite =>
    intro fuel rest hfuel hrest
    have hread := readNumber_append h hfinite hrest
    obtain ⟨c, later, rfl, hc⟩ := h.exists_cons
    obtain ⟨fuel, rfl⟩ := exists_later hfuel (by simp)
    rw [List.cons_append] at hread ⊢
    rw [readValueFrom_number hc, hread, ok_bind]
  | string h =>
    intro fuel rest hfuel _
    obtain ⟨fuel, rfl⟩ := exists_later hfuel (by simp)
    have hread := readString_append h rest
    rw [readValueFrom.eq_def]
    simp [hread]
  | @noItems depth between hbetween =>
    intro fuel rest hfuel _
    obtain ⟨fuel, rfl⟩ := exists_later hfuel (by simp)
    have hskip : skipSpaces (between ++ ']' :: rest) = ']' :: rest :=
      skipSpaces_append hbetween (stops_cons_iff.mpr rfl)
    rw [readValueFrom.eq_def]
    simp [hskip]
  | @array depth items before text after hbefore h hafter ih =>
    intro fuel rest hfuel _
    obtain ⟨fuel, rfl⟩ := exists_later hfuel (by simp)
    have hread := ih fuel after rest (by simp at hfuel; omega) hafter
    have harray := readValueFrom_array hbefore h fuel (after ++ ']' :: rest)
    simp only [List.cons_append, List.append_assoc, List.nil_append] at hread harray ⊢
    rw [harray, hread, ok_bind]
  | @noMembers depth between hbetween =>
    intro fuel rest hfuel _
    obtain ⟨fuel, rfl⟩ := exists_later hfuel (by simp)
    have hskip : skipSpaces (between ++ '\x7d' :: rest) = '\x7d' :: rest :=
      skipSpaces_append hbetween (stops_cons_iff.mpr rfl)
    rw [readValueFrom.eq_def]
    simp [hskip]
  | @object depth members before text after hbefore h hafter ih =>
    intro fuel rest hfuel _
    obtain ⟨fuel, rfl⟩ := exists_later hfuel (by simp)
    have hread := ih fuel after rest (by simp at hfuel; omega) hafter
    have hobject := readValueFrom_object hbefore h fuel (after ++ '\x7d' :: rest)
    simp only [List.cons_append, List.append_assoc, List.nil_append] at hread hobject ⊢
    rw [hobject, hread, ok_bind]
  | lastItem h ih =>
    intro fuel after rest hfuel hafter
    obtain ⟨fuel, rfl⟩ := exists_later hfuel (by omega)
    rw [List.append_assoc]
    exact readItemsFrom_last
      (ih fuel _ (by omega) (hafter.stops_append (stops_cons_iff.mpr rfl))) hafter
  | item hfirst hcomma hrest ihfirst ihrest =>
    intro fuel after rest hfuel hafter
    have hlength := hcomma.length_pos
    simp only [List.length_append] at hfuel
    obtain ⟨fuel, rfl⟩ := exists_later hfuel (by omega)
    have hitems := ihrest fuel after rest (by omega) hafter
    simp only [List.append_assoc] at hitems ⊢
    exact readItemsFrom_next (ihfirst fuel _ (by omega) (hcomma.stops_append _)) hcomma
      (hrest.stops _) hitems
  | lastMember hname h ih =>
    intro fuel after rest hfuel hafter
    simp only [List.length_append] at hfuel
    obtain ⟨fuel, rfl⟩ := exists_later hfuel (by omega)
    simp only [List.append_assoc]
    exact readMembersFrom_last hname
      (ih fuel _ (by omega) (hafter.stops_append (stops_cons_iff.mpr rfl))) (h.stops _) hafter
  | member hname hfirst hcomma hrest ihfirst ihrest =>
    intro fuel after rest hfuel hafter
    have hlength := hcomma.length_pos
    simp only [List.length_append] at hfuel
    obtain ⟨fuel, rfl⟩ := exists_later hfuel (by omega)
    have hmembers := ihrest fuel after rest (by omega) hafter
    simp only [List.append_assoc] at hmembers ⊢
    exact readMembersFrom_next hname (ihfirst fuel _ (by omega) (hcomma.stops_append _))
      (hfirst.stops _) hcomma (hrest.stops _) hmembers

theorem readValue_append {value : Json} {written rest : Text}
    (h : Written (·.isFinite) depth (.value value) written) (hrest : Stops continuesNumber rest) :
    readValue depth (written ++ rest) = .ok (value, rest) :=
  h.readBack _ rest (by simp only [fuelFor, List.length_append]; omega) hrest

/-! ### Texts of one value -/

theorem Blank.stops {text : Text} (h : Blank text) : Stops continuesNumber text := by
  simpa using h.stops_append stops_nil

theorem skipSpaces_eq_nil_iff {text : Text} : skipSpaces text = [] ↔ Blank text := by
  simp [skipSpaces, Blank]

/-- A text is one value if a value is read behind its blanks and nothing but blanks is left. -/
theorem isText_iff_readValue {value : Json} {text : Text} :
    IsText (·.isFinite) depth value text ↔
      ∃ after, Blank after ∧ readValue depth (skipSpaces text) = .ok (value, after) := by
  constructor
  · rintro ⟨before, written, after, hbefore, hafter, rfl, hwritten⟩
    refine ⟨after, hafter, ?_⟩
    rw [hwritten.skip_blank hbefore]
    exact readValue_append hwritten hafter.stops
  · rintro ⟨after, hafter, hread⟩
    obtain ⟨before, hbefore, htext⟩ := exists_blank text
    obtain ⟨written, hwritten, hskip⟩ := written_of_readValueFrom hread
    exact ⟨before, written, after, hbefore, hafter, by rw [htext, hskip, List.append_assoc],
      hwritten⟩

/-- A text is one value at most. -/
theorem IsText.unique {v w : Json} {text : Text} (hv : IsText (·.isFinite) depth v text)
    (hw : IsText (·.isFinite) depth w text) : v = w := by
  obtain ⟨after, -, hreadv⟩ := isText_iff_readValue.mp hv
  obtain ⟨later, -, hreadw⟩ := isText_iff_readValue.mp hw
  rw [hreadv] at hreadw
  cases hreadw
  rfl

end BenchRelay.Json
