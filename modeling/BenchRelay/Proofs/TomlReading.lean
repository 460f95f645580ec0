import BenchRelay.Proofs.TomlScalars

/-!
# Reading values

A value is read back from every text that the grammar has for it, whatever comes behind that may
follow a value. Two steps for each character are enough, and arrays and inline tables go as deep as
the reader allows. Each part of the grammar begins with a character of its own, which no gap in
front of it and no closing bracket does.
-/

namespace BenchRelay.Toml

open Json (Stops stops_nil stops_cons_iff takeWhile_append_of_stops)

/-! ### Blanks, line breaks and comments -/

section Gaps

variable {text rest : Text}

/-- A character that is no part of what stands between the parts of a document. -/
def isFront (c : Char) : Bool := isInk c && c != '#'

theorem isFront_iff {c : Char} : isFront c = true ↔ isInk c = true ∧ c ≠ '#' := by
  simp [isFront]

theorem skipTriviaFrom_printable {c : Char} (hc : isPrintable c) (rest : Text) :
    skipTriviaFrom true (c :: rest) = skipTriviaFrom true rest := by
  rw [skipTriviaFrom.eq_def]
  split
  · contradiction
  · next heq =>
    rw [(List.cons.inj heq).1] at hc
    contradiction
  · next heq =>
    rw [(List.cons.inj heq).1] at hc
    contradiction
  · next heq =>
    obtain ⟨rfl, rfl⟩ := List.cons.inj heq
    rw [if_pos rfl, if_pos hc]

/-- A remark is skipped up to the end of its line. -/
theorem skipTriviaFrom_remark {remark : Text} (h : Printable remark) (rest : Text) :
    skipTriviaFrom true (remark ++ rest) = skipTriviaFrom true rest := by
  induction remark with
  | nil => rfl
  | cons c remark ih =>
    rw [List.cons_append, skipTriviaFrom_printable (h c (by simp)),
      ih fun d hd => h d (by simp [hd])]

theorem skipTriviaFrom_ending {ending : Text} (h : LineBreak ending) (inComment : Bool)
    (rest : Text) : skipTriviaFrom inComment (ending ++ rest) = skipTrivia rest := by
  cases h <;> rfl

theorem skipTrivia_blank {c : Char} (hc : isBlankInLine c) (rest : Text) :
    skipTrivia (c :: rest) = skipTrivia rest := by
  rcases isBlankInLine_iff.mp hc with rfl | rfl <;> rfl

theorem skipTrivia_blanks {blank : Text} (h : Blank blank) (rest : Text) :
    skipTrivia (blank ++ rest) = skipTrivia rest := by
  induction blank with
  | nil => rfl
  | cons c blank ih =>
    rw [List.cons_append, skipTrivia_blank (h c (by simp)), ih fun d hd => h d (by simp [hd])]

theorem skipTrivia_skipBlanks (text : Text) : skipTrivia (skipBlanks text) = skipTrivia text := by
  conv_rhs => rw [← List.takeWhile_append_dropWhile (p := isBlankInLine) (l := text)]
  exact (skipTrivia_blanks (fun c hc => List.mem_takeWhile_imp hc) _).symm

theorem skipTrivia_of_isFront {c : Char} (h : isFront c) (rest : Text) :
    skipTrivia (c :: rest) = some (c :: rest) := by
  obtain ⟨hink, hhash⟩ := isFront_iff.mp h
  obtain ⟨hblank, hlf, hcr⟩ := isInk_iff.mp hink
  rw [skipTrivia, skipTriviaFrom.eq_def]
  split <;> simp_all

theorem Gap.skipTrivia_append {gap : Text} (h : Gap true gap) (rest : Text) :
    skipTrivia (gap ++ rest) = skipTrivia rest := by
  induction h with
  | nil => rfl
  | blank hc _ ih => rw [List.cons_append, skipTrivia_blank hc, ih]
  | lineBreak hending _ ih => rw [List.append_assoc, skipTrivia, skipTriviaFrom_ending hending, ih]
  | @comment remark ending gap _ hremark hending _ ih =>
    have hhash (text : Text) : skipTrivia ('#' :: text) = skipTriviaFrom true text := rfl
    simp only [List.cons_append, List.append_assoc]
    rw [hhash, skipTriviaFrom_remark hremark, skipTriviaFrom_ending hending, ih]

/-- Skipping a gap ends where the next part begins. -/
theorem Gap.skipTrivia_front {gap : Text} (h : Gap true gap) {c : Char} (hc : isFront c)
    (rest : Text) : skipTrivia (gap ++ c :: rest) = some (c :: rest) := by
  rw [h.skipTrivia_append, skipTrivia_of_isFront hc]

/-- Behind its blanks a gap goes on with a comment, a line break, or what comes next. -/
theorem Gap.head?_skipBlanks {gap : Text} (h : Gap true gap) {c : Char}
    (hc : isBlankInLine c = false) (rest : Text) :
    ∀ d ∈ (skipBlanks (gap ++ c :: rest)).head?, d ∈ ['#', '\n', '\r', c] := by
  induction h with
  | nil => simp [skipBlanks, hc]
  | @blank b gap hb _ ih =>
    have hskip : skipBlanks (b :: gap ++ c :: rest) = skipBlanks (gap ++ c :: rest) := by
      simp [skipBlanks, hb]
    rwa [hskip]
  | lineBreak hending => cases hending <;> simp [skipBlanks, isBlankInLine]
  | comment => simp [skipBlanks, isBlankInLine]

theorem Gap.closes {gap : Text} (h : Gap true gap) {c : Char} (hc : c ∈ [',', ']', '\x7d'])
    (rest : Text) : Closes (gap ++ c :: rest) := by
  have hall : [',', ']', '\x7d'].all fun c => !isBlankInLine c := by decide
  have hblank : isBlankInLine c = false := by simpa using List.all_eq_true.mp hall c hc
  intro d hd
  have hmem := h.head?_skipBlanks hblank rest d hd
  simp only [List.mem_cons, List.not_mem_nil, or_false] at hmem hc ⊢
  grind

end Gaps

/-! ### Keys -/

section Keys

variable {key written rest : Text} {path : Path} {most : Nat}

/-- A character that a key may begin with. -/
def beginsKey (c : Char) : Bool := isBareKeyChar c || c == '"' || c == '\''

theorem KeyText.exists_cons (h : KeyText key written) :
    ∃ c others, written = c :: others ∧ beginsKey c := by
  cases h with
  | bare hkey hsome =>
    obtain ⟨c, others, rfl⟩ := List.exists_cons_of_ne_nil hsome
    exact ⟨c, others, rfl, by rw [beginsKey, hkey c (by simp)]; rfl⟩
  | basic => exact ⟨'"', _, rfl, rfl⟩
  | literal => exact ⟨'\'', _, rfl, rfl⟩

theorem PathText.exists_cons (h : PathText most path written) :
    ∃ c others, written = c :: others ∧ beginsKey c := by
  cases h with
  | last h =>
    obtain ⟨c, others, rfl, hc⟩ := h.exists_cons
    exact ⟨c, _, rfl, hc⟩
  | dotted h =>
    obtain ⟨c, others, rfl, hc⟩ := h.exists_cons
    exact ⟨c, _, rfl, hc⟩

/-- What a key may begin with is none of the characters with a meaning of their own. -/
theorem ne_of_beginsKey {c d : Char} (hc : beginsKey c) (hd : beginsKey d = false) : c ≠ d := by
  rintro rfl
  simp [hc] at hd

theorem isFront_of_beginsKey {c : Char} (h : beginsKey c) : isFront c := by
  refine isFront_iff.mpr ⟨isInk_iff.mpr ⟨?_, ne_of_beginsKey h rfl, ne_of_beginsKey h rfl⟩,
    ne_of_beginsKey h rfl⟩
  rw [← Bool.not_eq_true, isBlankInLine_iff, not_or]
  exact ⟨ne_of_beginsKey h rfl, ne_of_beginsKey h rfl⟩

theorem keyPart?_append (h : KeyText key written) (hrest : Stops isBareKeyChar rest) :
    keyPart? (written ++ rest) = some (key, rest) := by
  cases h with
  | bare hkey hsome =>
    obtain ⟨htake, hdrop⟩ := takeWhile_append_of_stops hkey hrest
    obtain ⟨c, others, rfl⟩ := List.exists_cons_of_ne_nil hsome
    have hc : isBareKeyChar c := hkey c (by simp)
    rw [keyPart?.eq_def]
    split
    · next heq =>
      obtain rfl : c = '"' := (List.cons.inj heq).1
      contradiction
    · next heq =>
      obtain rfl : c = '\'' := (List.cons.inj heq).1
      contradiction
    · rw [htake, hdrop]
      rfl
  | basic h =>
    simp only [List.cons_append, List.append_assoc, List.nil_append]
    exact basic?_append h rest
  | literal h =>
    simp only [List.cons_append, List.append_assoc, List.nil_append]
    exact literal?_append h rest

theorem stops_isBareKeyChar_blank {blank : Text} (h : Blank blank)
    (hrest : Stops isBareKeyChar rest) : Stops isBareKeyChar (blank ++ rest) := by
  cases blank with
  | nil => exact hrest
  | cons c blank =>
    rcases isBlankInLine_iff.mp (h c (by simp)) with rfl | rfl <;> exact stops_cons_iff.mpr rfl

theorem skipBlanks_blanks {blank : Text} (h : Blank blank) (rest : Text) :
    skipBlanks (blank ++ rest) = skipBlanks rest := by
  induction blank with
  | nil => rfl
  | cons c blank ih =>
    simpa [skipBlanks, h c (by simp)] using ih fun d hd => h d (by simp [hd])

/-- A dotted key is read back, and the blanks behind it are skipped. -/
theorem pathFrom_append (h : PathText most path written) (hrest : Stops isBareKeyChar rest)
    (hpoint : ∀ c ∈ (skipBlanks rest).head?, c ≠ '.') :
    pathFrom most (written ++ rest) = some (path, skipBlanks rest) := by
  induction h with
  | @last most key written after h hafter =>
    have hskip : skipBlanks (after ++ rest) = skipBlanks rest := skipBlanks_blanks hafter rest
    rw [List.append_assoc, pathFrom, keyPart?_append h (stops_isBareKeyChar_blank hafter hrest)]
    simp only [Option.bind_eq_bind, Option.bind_some, hskip]
    split
    · next heq => exact absurd rfl (hpoint '.' (by rw [heq]; rfl))
    · rfl
  | @dotted most key written before after inner path h hbefore hafter hinner ih =>
    obtain ⟨c, others, rfl, hc⟩ := hinner.exists_cons
    obtain ⟨hblank, -, -⟩ := isInk_iff.mp (isFront_iff.mp (isFront_of_beginsKey hc)).1
    have hskipBefore : skipBlanks (before ++ '.' :: (after ++ (c :: others ++ rest))) =
        '.' :: (after ++ (c :: others ++ rest)) :=
      skipBlanks_append hbefore (stops_cons_iff.mpr rfl)
    have hskipAfter : skipBlanks (after ++ (c :: others ++ rest)) = c :: others ++ rest :=
      skipBlanks_append hafter (stops_cons_iff.mpr hblank)
    simp only [List.append_assoc, List.cons_append] at ih hskipBefore hskipAfter ⊢
    rw [pathFrom, keyPart?_append h (stops_isBareKeyChar_blank hbefore (stops_cons_iff.mpr rfl))]
    simp only [Option.bind_eq_bind, Option.bind_some, hskipBefore, hskipAfter, ih]

/-- A key is read back in front of a character that ends it. -/
theorem path?_append (h : PathText depthLimit path written) {c : Char} (hc : c = '=' ∨ c = ']')
    (rest : Text) : path? (written ++ c :: rest) = some (path, c :: rest) := by
  have hskip : skipBlanks (c :: rest) = c :: rest := by
    rcases hc with rfl | rfl <;> exact skipBlanks_of_stops (stops_cons_iff.mpr rfl)
  rw [path?, pathFrom_append h, hskip]
  · rcases hc with rfl | rfl <;> exact stops_cons_iff.mpr rfl
  · rw [hskip]
    rcases hc with rfl | rfl <;> simp

/-- Between a key of an inline table and its sign there may be a gap. -/
theorem path?_gap (h : PathText depthLimit path written) {gap : Text} (hgap : Gap true gap)
    (rest : Text) :
    path? (written ++ (gap ++ '=' :: rest)) = some (path, skipBlanks (gap ++ '=' :: rest)) := by
  refine pathFrom_append h ?_ ?_
  · cases hgap with
    | nil => exact stops_cons_iff.mpr rfl
    | blank hc =>
      rcases isBlankInLine_iff.mp hc with rfl | rfl <;> exact stops_cons_iff.mpr rfl
    | lineBreak hending => cases hending <;> exact stops_cons_iff.mpr rfl
    | comment => exact stops_cons_iff.mpr rfl
  · intro c hc
    have hmem := hgap.head?_skipBlanks rfl rest c hc
    rintro rfl
    simp at hmem

end Keys

/-! ### Values -/

section Values

variable {fuel depth : Nat} {text written rest : Text} {value : Value}

/-- A character that a value may begin with. -/
def beginsValue (c : Char) : Bool :=
  isScalarChar c || c == '"' || c == '\'' || c == '[' || c == '\x7b'

theorem QuotedText.exists_cons (h : QuotedText text written) :
    ∃ c others, written = c :: others ∧ (c = '"' ∨ c = '\'') := by
  cases h with
  | basic => exact ⟨_, _, rfl, .inl rfl⟩
  | literal => exact ⟨_, _, rfl, .inr rfl⟩
  | basicLines => exact ⟨_, _, rfl, .inl rfl⟩
  | literalLines => exact ⟨_, _, rfl, .inr rfl⟩

theorem Written.exists_cons_value {limit : Nat} (h : Written limit depth (.value value) written) :
    ∃ c others, written = c :: others ∧ beginsValue c := by
  cases h with
  | string h =>
    obtain ⟨c, others, rfl, hc⟩ := h.exists_cons
    exact ⟨c, others, rfl, by rcases hc with rfl | rfl <;> rfl⟩
  | scalar h =>
    obtain ⟨c, others, rfl, hc⟩ := h.words.exists_cons
    exact ⟨c, others, rfl, by simp [beginsValue, hc]⟩
  | array => exact ⟨_, _, rfl, rfl⟩
  | table => exact ⟨_, _, rfl, rfl⟩

theorem isFront_of_beginsValue {c : Char} (h : beginsValue c) : isFront c ∧ c ≠ ']' := by
  have hne {d : Char} (hd : beginsValue d = false) : c ≠ d := by
    rintro rfl
    simp [h] at hd
  refine ⟨isFront_iff.mpr ⟨isInk_iff.mpr ⟨?_, hne rfl, hne rfl⟩, hne rfl⟩, hne rfl⟩
  rw [← Bool.not_eq_true, isBlankInLine_iff, not_or]
  exact ⟨hne rfl, hne rfl⟩

/-- Every part begins with a character that no gap has. -/
theorem Written.exists_cons {limit : Nat} {part : Part} (h : Written limit depth part written) :
    ∃ c others, written = c :: others ∧ isFront c := by
  have hvalue {value : Value} {first : Text} (h : Written limit depth (.value value) first)
      (rest : Text) : ∃ c others, first ++ rest = c :: others ∧ isFront c := by
    obtain ⟨c, others, rfl, hc⟩ := h.exists_cons_value
    exact ⟨c, others ++ rest, rfl, (isFront_of_beginsValue hc).1⟩
  have hpath {path : Path} {key : Text} (h : PathText limit path key) (rest : Text) :
      ∃ c others, key ++ rest = c :: others ∧ isFront c := by
    obtain ⟨c, others, rfl, hc⟩ := h.exists_cons
    exact ⟨c, others ++ rest, rfl, isFront_of_beginsKey hc⟩
  cases part with
  | value value => simpa using hvalue h []
  | items items =>
    cases h with
    | noItems => exact ⟨_, _, rfl, rfl⟩
    | lastItem h => simpa only [List.append_assoc] using hvalue h _
    | item h => simpa only [List.append_assoc] using hvalue h _
  | entries entries =>
    cases h with
    | noEntries => exact ⟨_, _, rfl, rfl⟩
    | lastEntry hkey => simpa only [List.append_assoc] using hpath hkey _
    | entry hkey => simpa only [List.append_assoc] using hpath hkey _

theorem Written.skipTrivia_append {limit : Nat} {part : Part}
    (h : Written limit depth part written) {gap : Text} (hgap : Gap true gap) (rest : Text) :
    skipTrivia (gap ++ (written ++ rest)) = some (written ++ rest) := by
  obtain ⟨c, others, rfl, hc⟩ := h.exists_cons
  exact hgap.skipTrivia_front hc _

theorem Closes.ne_quote (h : Closes rest) : ∀ c ∈ rest.head?, c ≠ '"' ∧ c ≠ '\'' := by
  intro c hc
  obtain ⟨others, rfl⟩ : ∃ others, rest = c :: others := by
    cases rest <;> simp_all
  by_cases hblank : isBlankInLine c
  · rcases isBlankInLine_iff.mp hblank with rfl | rfl <;> simp
  · have hmem := h c (by simp [skipBlanks, hblank])
    constructor <;> rintro rfl <;> simp at hmem

/-- A value that no bracket opens is quoted or a scalar. -/
theorem valueFrom_plain {c : Char} (harray : c ≠ '[') (htable : c ≠ '\x7b') :
    valueFrom (fuel + 1) depth (c :: rest) =
      if c = '"' || c = '\'' then
        (quoted? (c :: rest)).map fun (read, rest) => (.string read, rest)
      else readScalar (c :: rest) := by
  rw [valueFrom.eq_def]
  split <;> simp_all

theorem valueFrom_string (h : QuotedText text written) (hrest : Closes rest) :
    valueFrom (fuel + 1) depth (written ++ rest) = some (.string text, rest) := by
  have hquoted := quoted?_append h hrest.ne_quote
  obtain ⟨c, others, rfl, hc⟩ := h.exists_cons
  rw [List.cons_append] at hquoted ⊢
  rw [valueFrom_plain (by rcases hc with rfl | rfl <;> decide)
    (by rcases hc with rfl | rfl <;> decide), if_pos (by simpa using hc), hquoted]
  rfl

theorem valueFrom_scalar (h : ScalarText value written) (hrest : Closes rest) :
    valueFrom (fuel + 1) depth (written ++ rest) = some (value, rest) := by
  have hread := readScalar_append h hrest
  obtain ⟨c, others, rfl, hc⟩ := h.words.exists_cons
  have hne {d : Char} (hd : isScalarChar d = false) : c ≠ d := by
    rintro rfl
    simp [hc] at hd
  have hquotes : ¬ (decide (c = '"') || decide (c = '\'')) = true := by
    simpa using And.intro (hne rfl : c ≠ '"') (hne rfl : c ≠ '\'')
  rw [List.cons_append] at hread ⊢
  rw [valueFrom_plain (hne rfl) (hne rfl), if_neg hquotes, hread]

/-- What is read from a text written for a part, given fuel for it. -/
def ReadBack (depth : Nat) (text : Text) : Part → Prop
  | .value value => ∀ fuel rest, 2 * text.length ≤ fuel → Closes rest →
      valueFrom fuel depth (text ++ rest) = some (value, rest)
  | .items items => ∀ fuel rest, 2 * text.length ≤ fuel →
      itemsFrom fuel depth (text ++ rest) = some (items, rest)
  | .entries entries => ∀ fuel seen made rest, 2 * text.length ≤ fuel →
      insertAll? seen entries = some made →
      entriesFrom fuel depth seen (text ++ rest) = some (made, rest)

theorem valueFrom_array {limit : Nat} {items : List Value} {before : Text}
    (hbefore : Gap true before) (h : Written limit depth (.items items) written)
    (hitems : itemsFrom fuel depth (written ++ rest) = some (items, rest)) :
    valueFrom (fuel + 1) (depth + 1) ('[' :: before ++ written ++ rest) =
      some (.array items, rest) := by
  rw [List.append_assoc, List.cons_append, valueFrom.eq_def]
  simp only [h.skipTrivia_append hbefore, Option.bind_eq_bind, Option.bind_some, hitems]

theorem valueFrom_table {limit : Nat} {entries : List (Path × Value)} {made : Entries}
    {before : Text} (hbefore : Gap true before) (h : Written limit depth (.entries entries) written)
    (hentries : entriesFrom fuel depth [] (written ++ rest) = some (made, rest)) :
    valueFrom (fuel + 1) (depth + 1) ('\x7b' :: before ++ written ++ rest) =
      some (.table (entriesToValues made), rest) := by
  rw [List.append_assoc, List.cons_append, valueFrom.eq_def]
  simp only [h.skipTrivia_append hbefore, Option.bind_eq_bind, Option.bind_some, hentries]

theorem itemsFrom_last {c : Char} {others after : Text} (hc : c ≠ ']') (hafter : Gap true after)
    (hitem : valueFrom fuel depth (c :: others) = some (value, after ++ ']' :: rest)) :
    itemsFrom (fuel + 1) depth (c :: others) = some ([value], rest) := by
  have hskip : skipTrivia (after ++ ']' :: rest) = some (']' :: rest) :=
    hafter.skipTrivia_front rfl rest
  rw [itemsFrom.eq_def]
  split
  · contradiction
  · next heq => exact absurd (List.cons.inj heq).1 hc
  · next heq _ =>
    cases heq
    simp only [hitem, Option.bind_eq_bind, Option.bind_some, hskip]

theorem itemsFrom_next {limit : Nat} {c : Char} {others before after later : Text}
    {items : List Value} (hc : c ≠ ']') (hbefore : Gap true before) (hafter : Gap true after)
    (h : Written limit depth (.items items) later)
    (hitem : valueFrom fuel depth (c :: others) =
      some (value, before ++ ',' :: (after ++ (later ++ rest))))
    (hitems : itemsFrom fuel depth (later ++ rest) = some (items, rest)) :
    itemsFrom (fuel + 1) depth (c :: others) = some (value :: items, rest) := by
  have hskip (text : Text) : skipTrivia (before ++ ',' :: text) = some (',' :: text) :=
    hbefore.skipTrivia_front rfl text
  rw [itemsFrom.eq_def]
  split
  · contradiction
  · next heq => exact absurd (List.cons.inj heq).1 hc
  · next heq _ =>
    cases heq
    simp only [hitem, Option.bind_eq_bind, Option.bind_some, hskip, h.skipTrivia_append hafter,
      hitems]

/-- Entries are read if the first one is and what comes behind its value is read as the rest. -/
theorem entriesFrom_entry {limit : Nat} {path : Path} {seen more : Entries} {key gap start : Text}
    {outcome : Option (Entries × Text)} (hkey : PathText depthLimit path key) (hgap : Gap true gap)
    (hstart : Gap true start) (h : Written limit depth (.value value) written)
    (hvalue : valueFrom fuel depth (written ++ rest) = some (value, rest))
    (hmore : seen.insertPath? path value = some more)
    (hrest : (do
      match ← skipTrivia rest with
      | ',' :: rest => entriesFrom fuel depth more (← skipTrivia rest)
      | '\x7d' :: rest => some (more, rest)
      | _ => none) = outcome) :
    entriesFrom (fuel + 1) depth seen (key ++ gap ++ '=' :: start ++ written ++ rest) =
      outcome := by
  have hpath := path?_gap hkey hgap (start ++ (written ++ rest))
  have hsign : skipTrivia (gap ++ '=' :: (start ++ (written ++ rest))) =
      some ('=' :: (start ++ (written ++ rest))) := hgap.skipTrivia_front rfl _
  obtain ⟨c, others, rfl, hc⟩ := hkey.exists_cons
  simp only [List.append_assoc, List.cons_append] at hpath ⊢
  rw [entriesFrom.eq_def]
  split
  · contradiction
  · next heq => exact absurd (List.cons.inj heq).1 (ne_of_beginsKey hc rfl)
  · next heq _ =>
    cases heq
    simp only [hpath, Option.bind_eq_bind, Option.bind_some, skipTrivia_skipBlanks, hsign,
      expect?_cons, h.skipTrivia_append hstart, hvalue, hmore]
    exact hrest

theorem insertAll?_cons {seen made : Entries} {path : Path} {entries : List (Path × Value)}
    (h : insertAll? seen ((path, value) :: entries) = some made) :
    ∃ more, seen.insertPath? path value = some more ∧ insertAll? more entries = some made := by
  simpa [insertAll?, List.foldlM_cons, Option.bind_eq_some_iff] using h

theorem exists_later {n fuel : Nat} (h : n ≤ fuel) (hn : 0 < n) : ∃ later, fuel = later + 1 :=
  Nat.exists_eq_add_of_le' (Nat.le_trans hn h)

/-- Every part is read back from its texts: by induction on how it is written, with a case for each
rule of the grammar. -/
theorem Written.readBack {part : Part} (h : Written depthLimit depth part written) :
    ReadBack depth written part := by
  induction h with
  | @string depth text written h =>
    intro fuel rest hfuel hrest
    obtain ⟨c, others, rfl, -⟩ := h.exists_cons
    obtain ⟨fuel, rfl⟩ := exists_later hfuel (by simp)
    exact valueFrom_string h hrest
  | scalar h =>
    intro fuel rest hfuel hrest
    obtain ⟨c, others, rfl, -⟩ := h.words.exists_cons
    obtain ⟨fuel, rfl⟩ := exists_later hfuel (by simp)
    exact valueFrom_scalar h hrest
  | array hbefore h ih =>
    intro fuel rest hfuel _
    obtain ⟨fuel, rfl⟩ := exists_later hfuel (by simp)
    simp only [List.cons_append, List.length_cons, List.length_append] at hfuel
    exact valueFrom_array hbefore h (ih fuel rest (by omega))
  | table hbefore h hmade ih =>
    intro fuel rest hfuel _
    obtain ⟨fuel, rfl⟩ := exists_later hfuel (by simp)
    simp only [List.cons_append, List.length_cons, List.length_append] at hfuel
    exact valueFrom_table hbefore h (ih fuel [] _ rest (by omega) hmade)
  | noItems =>
    intro fuel rest hfuel
    obtain ⟨fuel, rfl⟩ := exists_later hfuel (by simp)
    rfl
  | @lastItem depth item written after h hafter ih =>
    intro fuel rest hfuel
    obtain ⟨fuel, rfl⟩ := exists_later hfuel (by simp)
    simp only [List.length_cons, List.length_append] at hfuel
    have hitem := ih fuel (after ++ ']' :: rest) (by omega) (hafter.closes (by simp) rest)
    obtain ⟨c, others, rfl, hc⟩ := h.exists_cons_value
    simp only [List.append_assoc, List.cons_append, List.nil_append] at hitem ⊢
    exact itemsFrom_last (isFront_of_beginsValue hc).2 hafter hitem
  | @item depth item items written before after later h hbefore hafter hlater ih ihlater =>
    intro fuel rest hfuel
    obtain ⟨fuel, rfl⟩ := exists_later hfuel (by simp)
    simp only [List.length_cons, List.length_append] at hfuel
    have hitem := ih fuel (before ++ ',' :: (after ++ (later ++ rest))) (by omega)
      (hbefore.closes (by simp) _)
    obtain ⟨c, others, rfl, hc⟩ := h.exists_cons_value
    simp only [List.append_assoc, List.cons_append] at hitem ⊢
    exact itemsFrom_next (isFront_of_beginsValue hc).2 hbefore hafter hlater hitem
      (ihlater fuel rest (by omega))
  | noEntries =>
    intro fuel seen made rest hfuel hmade
    obtain ⟨fuel, rfl⟩ := exists_later hfuel (by simp)
    obtain rfl : seen = made := by simpa [insertAll?] using hmade
    rfl
  | @lastEntry depth path item key gap start written after hkey hgap hstart h hafter ih =>
    intro fuel seen made rest hfuel hmade
    obtain ⟨fuel, rfl⟩ := exists_later hfuel (by simp)
    simp only [List.length_cons, List.length_append] at hfuel
    obtain ⟨more, hmore, hmade⟩ := insertAll?_cons hmade
    obtain rfl : more = made := by simpa [insertAll?] using hmade
    have hitem := ih fuel (after ++ '\x7d' :: rest) (by omega) (hafter.closes (by simp) rest)
    have hskip : skipTrivia (after ++ '\x7d' :: rest) = some ('\x7d' :: rest) :=
      hafter.skipTrivia_front rfl rest
    rw [List.append_assoc, List.append_assoc]
    exact entriesFrom_entry hkey hgap hstart h hitem hmore (by simp [hskip])
  | @entry depth path item entries key gap start written before after later hkey hgap hstart h
      hbefore hafter hlater ih ihlater =>
    intro fuel seen made rest hfuel hmade
    obtain ⟨fuel, rfl⟩ := exists_later hfuel (by simp)
    simp only [List.length_cons, List.length_append] at hfuel
    obtain ⟨more, hmore, hmade⟩ := insertAll?_cons hmade
    have hitem := ih fuel (before ++ ',' :: (after ++ (later ++ rest))) (by omega)
      (hbefore.closes (by simp) _)
    have hskip : skipTrivia (before ++ ',' :: (after ++ (later ++ rest))) =
        some (',' :: (after ++ (later ++ rest))) := hbefore.skipTrivia_front rfl _
    have hentries := ihlater fuel more made rest (by omega) hmade
    have hrest := entriesFrom_entry hkey hgap hstart h hitem hmore rfl
    simp only [hskip, hlater.skipTrivia_append hafter, hentries, Option.bind_eq_bind,
      Option.bind_some] at hrest
    simpa only [List.append_assoc, List.cons_append] using hrest

/-- A value is read back from a text of it, in front of what may follow a value. -/
theorem value?_append (h : Written depthLimit depthLimit (.value value) written)
    (hrest : Closes rest) : value? (written ++ rest) = some (value, rest) :=
  h.readBack _ rest (by simp only [List.length_append]; omega) hrest

end Values

end BenchRelay.Toml
