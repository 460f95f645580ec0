import BenchRelay.Proofs.TomlReading

/-!
# Reading documents

A statement is read back from every text that the grammar has for it, and a document from the texts
of its statements with gaps in front of them, whether or not it begins with a byte order mark.
-/

namespace BenchRelay.Toml

open Json (Stops stops_nil stops_cons_iff takeWhile_append_of_stops)

/-! ### Ends of lines -/

/-- A text that begins with the end of a line, or is empty, and the text behind. -/
inductive LineEnd : Text → Text → Prop
  | document : LineEnd [] []
  | line {ending : Text} (h : LineBreak ending) (rest : Text) : LineEnd (ending ++ rest) rest

section LineEnds

variable {text behind rest : Text}

theorem LineEnd.stops (h : LineEnd behind rest) {kind : Char → Bool} (hlf : kind '\n' = false)
    (hcr : kind '\r' = false) : Stops kind behind := by
  cases h with
  | document => exact stops_nil
  | line h => cases h <;> simpa

theorem LineEnd.lineBreak?_eq (h : LineEnd behind rest) :
    (if behind.isEmpty then some [] else lineBreak? behind) = some rest := by
  cases h with
  | document => rfl
  | line h => cases h <;> rfl

theorem LineRest.lineEnd?_append (h : LineRest text) (hend : LineEnd behind rest) :
    lineEnd? (text ++ behind) = some rest := by
  have hblank : Stops isBlankInLine behind := hend.stops rfl rfl
  cases h with
  | blank h =>
    have hskip : skipBlanks (text ++ behind) = behind := skipBlanks_append h hblank
    have hhash : Stops (· == '#') behind := hend.stops rfl rfl
    rw [lineEnd?, hskip]
    split
    · simp at hhash
    · exact hend.lineBreak?_eq
  | @comment before remark hbefore hremark =>
    have hskip : skipBlanks (before ++ '#' :: (remark ++ behind)) = '#' :: (remark ++ behind) :=
      skipBlanks_append hbefore (stops_cons_iff.mpr rfl)
    have hdrop : (remark ++ behind).dropWhile isPrintable = behind :=
      (takeWhile_append_of_stops hremark (hend.stops rfl rfl)).2
    rw [List.append_assoc, List.cons_append, lineEnd?, hskip]
    simp only [hdrop]
    exact hend.lineBreak?_eq

theorem LineRest.closes (h : LineRest text) (hend : LineEnd behind rest) :
    Closes (text ++ behind) := by
  cases h with
  | blank h =>
    rw [Closes, skipBlanks_append h (hend.stops rfl rfl)]
    cases hend with
    | document => simp
    | line h => cases h <;> simp
  | comment hbefore =>
    rw [List.append_assoc, List.cons_append, Closes,
      skipBlanks_append hbefore (stops_cons_iff.mpr rfl)]
    simp

theorem LineRest.skipTrivia_eq (h : LineRest text) : skipTrivia text = some [] := by
  cases h with
  | blank h =>
    have hskip := skipTrivia_blanks h []
    rwa [List.append_nil] at hskip
  | @comment before remark hbefore hremark =>
    have hhash : skipTrivia ('#' :: remark) = skipTriviaFrom true remark := rfl
    have hremark := skipTriviaFrom_remark hremark []
    rw [List.append_nil] at hremark
    rw [skipTrivia_blanks hbefore, hhash, hremark]
    rfl

end LineEnds

/-! ### Statements -/

section Statements

variable {statement : Statement} {statements : List Statement} {text behind rest : Text}

theorem statement?_entry {c : Char} (hc : c ≠ '[') (text : Text) :
    statement? (c :: text) = (do
      let (path, rest) ← path? (c :: text)
      let rest ← expect? '=' rest
      let (value, rest) ← value? (skipBlanks rest)
      some (.entry path value, ← lineEnd? rest)) := by
  rw [statement?.eq_def]
  split <;> simp_all

theorem statement?_header {text : Text} (h : ∀ c ∈ text.head?, c ≠ '[') :
    statement? ('[' :: text) = (do
      let (path, rest) ← path? (skipBlanks text)
      let rest ← expect? ']' rest
      some (.header path, ← lineEnd? rest)) := by
  rw [statement?.eq_def]
  split <;> simp_all

theorem PathText.skipBlanks_append {path : Path} {key blank : Text} {most : Nat}
    (h : PathText most path key) (hblank : Blank blank) (rest : Text) :
    skipBlanks (blank ++ (key ++ rest)) = key ++ rest := by
  obtain ⟨c, others, rfl, hc⟩ := h.exists_cons
  have hink := (isFront_iff.mp (isFront_of_beginsKey hc)).1
  exact Toml.skipBlanks_append hblank (stops_cons_iff.mpr (isInk_iff.mp hink).1)

theorem StatementText.statement?_append (h : StatementText depthLimit statement text)
    (hend : LineEnd behind rest) : statement? (text ++ behind) = some (statement, rest) := by
  cases h with
  | @entry path value key blank written later hkey hblank h hlater =>
    have hpath := path?_append hkey (.inl rfl) (blank ++ (written ++ (later ++ behind)))
    have hskip : skipBlanks (blank ++ (written ++ (later ++ behind))) =
        written ++ (later ++ behind) := by
      obtain ⟨c, others, rfl, hc⟩ := h.exists_cons
      exact Toml.skipBlanks_append hblank
        (stops_cons_iff.mpr (isInk_iff.mp (isFront_iff.mp hc).1).1)
    obtain ⟨c, others, rfl, hc⟩ := hkey.exists_cons
    simp only [List.append_assoc, List.cons_append] at hpath ⊢
    rw [statement?_entry (ne_of_beginsKey hc rfl), hpath]
    simp only [Option.bind_eq_bind, Option.bind_some, expect?_cons, hskip,
      value?_append h (hlater.closes hend), hlater.lineEnd?_append hend]
  | @header path blank key later hblank hkey hlater =>
    have hpath := path?_append hkey (.inr rfl) (later ++ behind)
    have hfront : ∀ c ∈ (blank ++ (key ++ ']' :: (later ++ behind))).head?, c ≠ '[' := by
      cases blank with
      | nil =>
        obtain ⟨c, others, rfl, hc⟩ := hkey.exists_cons
        simpa using ne_of_beginsKey hc rfl
      | cons c blank => rcases isBlankInLine_iff.mp (hblank c (by simp)) with rfl | rfl <;> simp
    simp only [List.append_assoc, List.cons_append]
    rw [statement?_header hfront, hkey.skipBlanks_append hblank, hpath]
    simp only [Option.bind_eq_bind, Option.bind_some, expect?_cons, hlater.lineEnd?_append hend]
  | @itemHeader path blank key later hblank hkey hlater =>
    have hpath := path?_append hkey (.inr rfl) (']' :: (later ++ behind))
    simp only [List.append_assoc, List.cons_append]
    rw [statement?, hkey.skipBlanks_append hblank, hpath]
    simp only [Option.bind_eq_bind, Option.bind_some, expect?_cons, hlater.lineEnd?_append hend]

theorem StatementText.exists_cons {limit : Nat} (h : StatementText limit statement text) :
    ∃ c others, text = c :: others ∧ isFront c := by
  cases h with
  | entry hkey =>
    obtain ⟨c, others, rfl, hc⟩ := hkey.exists_cons
    exact ⟨c, _, rfl, isFront_of_beginsKey hc⟩
  | header => exact ⟨'[', _, rfl, rfl⟩
  | itemHeader => exact ⟨'[', _, rfl, rfl⟩

/-- A statement is read behind the gap in front of it. -/
theorem statementsFrom_append {gap : Text} (hgap : Gap true gap)
    (h : StatementText depthLimit statement text) (hend : LineEnd behind rest) (fuel : Nat) :
    statementsFrom (fuel + 1) (gap ++ (text ++ behind)) =
      (statementsFrom fuel rest).map (statement :: ·) := by
  have hread := h.statement?_append hend
  obtain ⟨c, others, rfl, hc⟩ := h.exists_cons
  have hskip : skipTrivia (gap ++ c :: (others ++ behind)) = some (c :: (others ++ behind)) :=
    hgap.skipTrivia_front hc _
  rw [List.cons_append] at hread ⊢
  simp only [statementsFrom, hskip, Option.bind_eq_bind, Option.bind_some, hread]

theorem statementsFrom_nil (fuel : Nat) : statementsFrom (fuel + 1) [] = some [] := rfl

theorem LinesText.statementsFrom_eq (h : LinesText depthLimit statements text) (fuel : Nat)
    (hfuel : text.length < fuel) : statementsFrom fuel text = some statements := by
  induction h generalizing fuel with
  | done hbefore hrest =>
    obtain ⟨fuel, rfl⟩ := exists_later hfuel (by omega)
    simp only [statementsFrom, hbefore.skipTrivia_append, hrest.skipTrivia_eq, Option.bind_eq_bind,
      Option.bind_some]
  | last hbefore h =>
    obtain ⟨fuel, rfl⟩ := exists_later hfuel (by omega)
    obtain ⟨fuel, rfl⟩ : ∃ later, fuel = later + 1 := by
      obtain ⟨c, others, rfl, -⟩ := h.exists_cons
      simp only [List.length_append, List.length_cons] at hfuel
      exact exists_later (Nat.le_of_lt_succ hfuel) (by omega)
    simpa [statementsFrom_nil] using statementsFrom_append hbefore h .document (fuel + 1)
  | @next statement statements before written ending rest hbefore h hending hrest ih =>
    obtain ⟨fuel, rfl⟩ := exists_later hfuel (by omega)
    obtain ⟨c, others, htext, -⟩ := h.exists_cons
    simp only [List.length_append, htext, List.length_cons] at hfuel
    have hread := statementsFrom_append hbefore h (.line hending rest) fuel
    rw [ih fuel (by omega)] at hread
    simpa using hread

/-- No statement begins with a byte order mark. -/
theorem statementsFrom_mark (fuel : Nat) (text : Text) :
    statementsFrom fuel ('\uFEFF' :: text) = none := by
  cases fuel with
  | zero => rfl
  | succ fuel =>
    have hskip : skipTrivia ('\uFEFF' :: text) = some ('\uFEFF' :: text) :=
      skipTrivia_of_isFront rfl text
    have hpath : path? ('\uFEFF' :: text) = none := by
      rw [path?, depthLimit, pathFrom, keyPart?.eq_def]
      simp [show isBareKeyChar '\uFEFF' = false from rfl]
    simp only [statementsFrom, hskip, Option.bind_eq_bind, Option.bind_some]
    rw [statement?_entry (by decide), hpath]
    rfl

/-- A document is read back from its texts. -/
theorem statements?_of_documentText (h : DocumentText depthLimit statements text) :
    statements? text = some statements := by
  cases h with
  | plain h =>
    have hread := h.statementsFrom_eq _ (Nat.lt_succ_self _)
    rw [statements?.eq_def]
    split
    · rw [statementsFrom_mark] at hread
      contradiction
    · exact hread
  | marked h => exact h.statementsFrom_eq _ (Nat.lt_succ_self _)

end Statements

end BenchRelay.Toml
