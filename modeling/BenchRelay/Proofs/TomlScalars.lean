import BenchRelay.Proofs.TomlNumbers
import BenchRelay.Proofs.TomlStrings

/-!
# Reading scalars

Dates and times are told from numbers by what stands behind their first digits. A scalar is taken
from a text together with the blank between a date and its time, but without any blanks behind it,
so it is read back wherever a comment, a line break, a comma or a closing bracket comes next.
-/

namespace BenchRelay.Toml

open Json (Sign Stops stops_nil stops_cons_iff takeWhile_append_of_stops)

/-! ### Dates and times -/

section Dates

variable {text rest : Text} {width least most : Nat}

theorem Fixed.fixed?_append (h : Fixed width least most text) (rest : Text) :
    fixed? width (text ++ rest) = some (ofDigits 10 text, rest) := by
  have hlength := h.length
  have hdigits : text.all Char.isDigit := List.all_eq_true.mpr h.isDigit
  rw [fixed?, List.take_left' hlength, List.drop_left' hlength]
  simp [hlength, hdigits]

@[simp] theorem expect?_cons (c : Char) (rest : Text) : expect? c (c :: rest) = some rest := by
  simp [expect?]

theorem DateText.date?_append (h : DateText text) (rest : Text) :
    ∃ read, date? (text ++ rest) = some (read, rest) := by
  obtain ⟨hyear, hmonth, hday⟩ := h
  have hmonthBounds := And.intro hmonth.least hmonth.most
  have hdayBounds := And.intro hday.least hday.most
  simp only [List.append_assoc, List.cons_append]
  simp [date?, hyear.fixed?_append, hmonth.fixed?_append, hday.fixed?_append, hmonthBounds,
    hdayBounds]

theorem SecondFraction.secondFraction?_append (h : SecondFraction text)
    (hrest : ∀ c ∈ rest.head?, c.isDigit = false ∧ c ≠ '.') :
    ∃ read, secondFraction? (text ++ rest) = some (read, rest) := by
  cases h with
  | none =>
    refine ⟨[], ?_⟩
    rw [List.nil_append, secondFraction?.eq_def]
    split
    · simp at hrest
    · rfl
  | @point digits hdigits hsome =>
    have hstops : Stops Char.isDigit rest := fun c hc => (hrest c hc).1
    obtain ⟨htake, hdrop⟩ := takeWhile_append_of_stops hdigits hstops
    simp [secondFraction?, htake, hdrop, hsome]

theorem TimeText.time?_append (h : TimeText text)
    (hrest : ∀ c ∈ rest.head?, c.isDigit = false ∧ c ≠ '.' ∧ c ≠ ':') :
    ∃ read, time? (text ++ rest) = some (read, rest) := by
  cases h with
  | minutes hhour hminute =>
    have hseconds : seconds? rest = some (":00".toList, rest) := by
      rw [seconds?.eq_def]
      split
      · simp at hrest
      · rfl
    simp only [List.append_assoc, List.cons_append]
    simp [time?, hhour.fixed?_append, hminute.fixed?_append, hhour.most, hminute.most, hseconds]
  | seconds hhour hminute hsecond hfraction =>
    obtain ⟨read, hread⟩ := hfraction.secondFraction?_append
      (fun c hc => ⟨(hrest c hc).1, (hrest c hc).2.1⟩)
    simp only [List.append_assoc, List.cons_append]
    simp [time?, seconds?, hhour.fixed?_append, hminute.fixed?_append, hsecond.fixed?_append,
      hhour.most, hminute.most, hsecond.most, hread]

theorem OffsetText.offset?_eq (h : OffsetText text) : ∃ read, offset? text = some read := by
  cases h with
  | none => exact ⟨[], rfl⟩
  | universal hc => exact ⟨['Z'], by simp [offset?, hc]⟩
  | @hours c hours minutes hc hhours hminutes =>
    have hmark : ¬ (c = 'Z' ∨ c = 'z') := by rcases hc with rfl | rfl <;> decide
    have hread := hminutes.fixed?_append []
    rw [List.append_nil] at hread
    simp only [List.cons_append]
    simp [offset?, hmark, hc, hhours.fixed?_append, hread, hhours.most, hminutes.most]

/-- An offset goes on neither as digits nor as a part of a time. -/
theorem OffsetText.head? (h : OffsetText text) :
    ∀ c ∈ text.head?, c.isDigit = false ∧ c ≠ '.' ∧ c ≠ ':' := by
  cases h with
  | none => simp
  | universal hc => rcases hc with rfl | rfl <;> simp
  | hours hc => rcases hc with rfl | rfl <;> simp

/-! ### Dates against numbers -/

/-- Digits at the front of a text lead to a mark. -/
def LeadsTo (mark : Char) (text : Text) : Prop :=
  ∃ digits rest, digits ≠ [] ∧ (∀ c ∈ digits, c.isDigit) ∧ text = digits ++ mark :: rest

theorem leadsTo_of_fixed? {n : Nat} {mark : Char} {behind : Text} (hwidth : width ≠ 0)
    (hfixed : fixed? width text = some (n, rest)) (hmark : expect? mark rest = some behind) :
    LeadsTo mark text := by
  unfold fixed? at hfixed
  dsimp only at hfixed
  split at hfixed
  · next hdigits =>
    simp only [Bool.and_eq_true, decide_eq_true_eq, List.all_eq_true] at hdigits
    obtain ⟨-, rfl⟩ := Prod.mk.inj (Option.some.inj hfixed)
    refine ⟨text.take width, behind, ?_, hdigits.2, ?_⟩
    · exact List.ne_nil_of_length_pos (by omega)
    · cases hdrop : text.drop width with
      | nil => simp [hdrop, expect?] at hmark
      | cons c others =>
        rw [hdrop, expect?] at hmark
        split at hmark
        · next hc =>
          rw [← hc, ← Option.some.inj hmark, ← hdrop, List.take_append_drop]
        · contradiction
  · contradiction

theorem date?_eq_none (h : ¬ LeadsTo '-' text) : date? text = none := by
  unfold date?
  cases hfixed : fixed? 4 text with
  | none => rfl
  | some read =>
    cases hmark : expect? '-' read.2 with
    | none => simp [hmark]
    | some behind => exact absurd (leadsTo_of_fixed? (by decide) hfixed hmark) h

theorem time?_eq_none (h : ¬ LeadsTo ':' text) : time? text = none := by
  unfold time?
  cases hfixed : fixed? 2 text with
  | none => rfl
  | some read =>
    cases hmark : expect? ':' read.2 with
    | none => simp [hmark]
    | some behind => exact absurd (leadsTo_of_fixed? (by decide) hfixed hmark) h

theorem dateTime?_eq_none (hdate : ¬ LeadsTo '-' text) (htime : ¬ LeadsTo ':' text) :
    dateTime? text = none := by
  simp only [dateTime?, date?_eq_none hdate, time?_eq_none htime]

/-- What digits lead to is the first character that is no digit. -/
theorem LeadsTo.head?_dropWhile {mark : Char} (h : LeadsTo mark text)
    (hmark : mark.isDigit = false) : (text.dropWhile Char.isDigit).head? = some mark := by
  obtain ⟨digits, rest, -, hdigits, rfl⟩ := h
  rw [(takeWhile_append_of_stops hdigits (stops_cons_iff.mpr hmark)).2, List.head?_cons]

theorem LeadsTo.isDigit_head? {mark : Char} (h : LeadsTo mark text) :
    ∃ c ∈ text.head?, c.isDigit := by
  obtain ⟨digits, rest, hne, hdigits, rfl⟩ := h
  obtain ⟨c, others, rfl⟩ := List.exists_cons_of_ne_nil hne
  exact ⟨c, rfl, hdigits c (by simp)⟩

theorem Fixed.exists_cons (h : Fixed (width + 1) least most text) :
    ∃ c others, text = c :: others ∧ c.isDigit := by
  obtain ⟨c, others, rfl⟩ := List.exists_cons_of_length_eq_add_one h.length
  exact ⟨c, others, rfl, h.isDigit c (by simp)⟩

/-- The hour of a time is no year. -/
theorem TimeText.not_leadsTo (h : TimeText text) : ¬ LeadsTo '-' text := by
  have hcolon {hour : Text} (hhour : Fixed 2 0 23 hour) (rest : Text) :
      ¬ LeadsTo '-' (hour ++ ':' :: rest) := by
    intro hleads
    have hhead := hleads.head?_dropWhile rfl
    rw [(takeWhile_append_of_stops hhour.isDigit (stops_cons_iff.mpr rfl)).2] at hhead
    simp at hhead
  cases h with
  | minutes hhour => exact hcolon hhour _
  | seconds hhour =>
    rw [List.append_assoc, List.append_assoc, List.cons_append, List.cons_append]
    exact hcolon hhour _

theorem DateTimeText.exists_dateTime? (h : DateTimeText text) :
    ∃ read, dateTime? text = some read := by
  cases h with
  | date h =>
    obtain ⟨read, hread⟩ := h.date?_append []
    rw [List.append_nil] at hread
    exact ⟨read, by simp only [dateTime?, hread]⟩
  | time h =>
    have hend : ∀ c ∈ ([] : Text).head?, c.isDigit = false ∧ c ≠ '.' ∧ c ≠ ':' := by simp
    obtain ⟨read, hread⟩ := h.time?_append hend
    rw [List.append_nil] at hread
    exact ⟨read, by simp only [dateTime?, date?_eq_none h.not_leadsTo, hread]⟩
  | @both date time offset separator hdate hseparator htime hoffset =>
    obtain ⟨read, hread⟩ := hdate.date?_append (separator :: (time ++ offset))
    obtain ⟨later, hlater⟩ := htime.time?_append hoffset.head?
    obtain ⟨shift, hshift⟩ := hoffset.offset?_eq
    rw [List.append_assoc, List.cons_append]
    exact ⟨read ++ 'T' :: later ++ shift, by simp [dateTime?, hread, hseparator, hlater, hshift]⟩

/-- A date or a time begins with a digit. -/
theorem DateTimeText.exists_cons (h : DateTimeText text) :
    ∃ c others, text = c :: others ∧ c.isDigit := by
  have hfront {first : Text} {n least most : Nat} (hfirst : Fixed (n + 1) least most first)
      (rest : Text) : ∃ c others, first ++ rest = c :: others ∧ c.isDigit := by
    obtain ⟨c, others, rfl, hc⟩ := hfirst.exists_cons
    exact ⟨c, others ++ rest, rfl, hc⟩
  cases h with
  | date h =>
    obtain ⟨hyear⟩ := h
    simpa only [List.append_assoc] using hfront hyear _
  | time h =>
    cases h with
    | minutes hhour => exact hfront hhour _
    | seconds hhour => simpa only [List.append_assoc] using hfront hhour _
  | both h =>
    obtain ⟨hyear⟩ := h
    simpa only [List.append_assoc] using hfront hyear _

end Dates

/-- Behind digits in groups comes an underscore or what stands behind them all. -/
theorem Grouped.head?_dropWhile {digits written : Text} (h : Grouped Char.isDigit digits written)
    (rest : Text) : ∀ c ∈ ((written ++ rest).dropWhile Char.isDigit).head?,
      c = '_' ∨ c ∈ (rest.dropWhile Char.isDigit).head? := by
  induction h with
  | last hc => simp +contextual [hc]
  | next hc _ ih => simpa [hc] using ih
  | underscore hc => simp [hc]

/-- A number in base ten is no date and no time. -/
theorem Grouped.dateTime?_eq_none {negative : Bool} {mark digits written rest : Text}
    (h : Grouped Char.isDigit digits written) (hsign : Sign negative mark)
    (hrest : ∀ c ∈ rest.head?, endsWhole c) : dateTime? (mark ++ (written ++ rest)) = none := by
  have hends {c : Char} (hc : c ∈ ((written ++ rest).dropWhile Char.isDigit).head?) :
      c = '_' ∨ endsWhole c := by
    rcases h.head?_dropWhile rest c hc with rfl | hc
    · exact .inl rfl
    · have hstops : Stops Char.isDigit rest := by
        intro d hd
        rw [← Bool.not_eq_true]
        exact fun hdigit => by simpa [endsWhole_eq_false (.inl hdigit)] using hrest d hd
      rw [show rest.dropWhile Char.isDigit = rest from
        (takeWhile_append_of_stops (s := []) (by simp) hstops).2] at hc
      exact .inr (hrest c hc)
  cases hsign with
  | none =>
    refine Toml.dateTime?_eq_none (fun hleads => ?_) (fun hleads => ?_)
    · simpa [endsWhole, isExponentMark] using hends (hleads.head?_dropWhile rfl)
    · simpa [endsWhole, isExponentMark] using hends (hleads.head?_dropWhile rfl)
  | plus =>
    refine Toml.dateTime?_eq_none (fun hleads => ?_) (fun hleads => ?_) <;>
      simpa using hleads.isDigit_head?
  | minus =>
    refine Toml.dateTime?_eq_none (fun hleads => ?_) (fun hleads => ?_) <;>
      simpa using hleads.isDigit_head?

theorem IntegerText.dateTime?_eq_none {n : Int} {text : Text} (h : IntegerText n text) :
    dateTime? text = none := by
  cases h with
  | decimal hsign h =>
    have hend : ∀ c ∈ ([] : Text).head?, endsWhole c := by simp
    have hnone := h.grouped.dateTime?_eq_none hsign hend
    rwa [List.append_nil] at hnone
  | based hbase =>
    simp only [bases, List.mem_cons, Prod.mk.injEq, List.not_mem_nil, or_false] at hbase
    refine Toml.dateTime?_eq_none (fun hleads => ?_) (fun hleads => ?_) <;>
      have hhead := hleads.head?_dropWhile rfl <;>
      rcases hbase with ⟨rfl, -, -⟩ | ⟨rfl, -, -⟩ | ⟨rfl, -, -⟩ <;> simp at hhead

/-- What begins neither truth value is none. -/
theorem boolean?_eq_none {text : Text} (h : ∀ c ∈ text.head?, c ≠ 't' ∧ c ≠ 'f') :
    boolean? text = none := by
  have htrue : text ≠ "true".toList := fun heq => (h 't' (by rw [heq]; rfl)).1 rfl
  have hfalse : text ≠ "false".toList := fun heq => (h 'f' (by rw [heq]; rfl)).2 rfl
  rw [boolean?, if_neg htrue, if_neg hfalse]

theorem boolean?_of_isDecimalChar {text : Text} (h : ∀ c ∈ text.head?, isDecimalChar c) :
    boolean? text = none := by
  refine boolean?_eq_none fun c hc => ⟨?_, ?_⟩ <;> rintro rfl <;> simpa [isDecimalChar] using h _ hc

theorem isDecimalChar_of_isDigit {c : Char} (h : c.isDigit) : isDecimalChar c := by
  rw [isDecimalChar, h, Bool.true_or]

/-- An integer begins with a digit or a sign. -/
theorem IntegerText.head? {n : Int} {text : Text} (h : IntegerText n text) :
    ∀ c ∈ text.head?, isDecimalChar c := by
  cases h with
  | decimal hsign h =>
    have hall := h.grouped.all_isDecimalChar
    cases hsign with
    | none => exact fun c hc => List.all_eq_true.mp hall c (List.mem_of_mem_head? hc)
    | plus => simp [isDecimalChar]
    | minus => simp [isDecimalChar]
  | based => simp [isDecimalChar]

theorem FloatText.scalar?_eq {finite : Bool} {text : Text} (h : FloatText finite text) :
    scalar? text = some (.float finite) := by
  have hfloat := h.float?_eq
  have hinteger := h.integer?_eq_none
  cases h with
  | word hsign hword => cases hsign <;> rcases hword with rfl | rfl <;> rfl
  | @digits _ mark whole w fraction f e exponent hsign hwhole hfraction hexponent hsome =>
    have hchars := all_isDecimalChar_append hsign hwhole hfraction hexponent
    have hboolean := boolean?_of_isDecimalChar fun c hc =>
      List.all_eq_true.mp hchars c (List.mem_of_mem_head? hc)
    have hdateTime : dateTime? (mark ++ w ++ f ++ e) = none := by
      rw [List.append_assoc, List.append_assoc]
      refine hwhole.grouped.dateTime?_eq_none hsign ?_
      obtain ⟨c, rest, hrest, hends⟩ := hfraction.exists_endsWhole hexponent hsome
      simpa [hrest] using hends
    simp only [scalar?, hboolean, hdateTime, hinteger, hfloat]
    rfl

theorem ScalarText.scalar?_eq {value : Value} {text : Text} (h : ScalarText value text) :
    scalar? text = some value := by
  cases h with
  | true => rfl
  | false => rfl
  | integer h =>
    simp [scalar?, boolean?_of_isDecimalChar h.head?, h.dateTime?_eq_none, h.integer?_eq]
  | float h => exact h.scalar?_eq
  | dateTime h =>
    obtain ⟨c, others, htext, hc⟩ := h.exists_cons
    obtain ⟨read, hread⟩ := h.exists_dateTime?
    have hboolean : boolean? text = none :=
      boolean?_of_isDecimalChar (by simpa [htext] using isDecimalChar_of_isDigit hc)
    simp [scalar?, hboolean, hread]

/-! ### The run of a scalar -/

/-- What may follow a value: blanks, and then nothing else that could belong to it. -/
def Closes (text : Text) : Prop :=
  ∀ c ∈ (skipBlanks text).head?, c ∈ ['#', '\n', '\r', ',', ']', '\x7d']

/-- A word without blanks, or two of them with a blank in between. -/
inductive Words : Text → Prop
  | one {word : Text} (h : word.all isScalarChar) (hne : word ≠ []) : Words word
  | two {first second : Text} (hfirst : first.all isScalarChar) (hfirstNe : first ≠ [])
      (hsecond : second.all isScalarChar) (hsecondNe : second ≠ []) :
      Words (first ++ ' ' :: second)

section Words

variable {text rest : Text}

theorem not_isScalarChar_of_isBlankInLine {c : Char} (h : isBlankInLine c) :
    isScalarChar c = false := by
  rcases isBlankInLine_iff.mp h with rfl | rfl <;> decide

/-- A run ends in front of what may follow a value. -/
theorem Closes.scalarRun_eq (h : Closes rest) : scalarRun rest = ([], rest) := by
  cases rest with
  | nil => rfl
  | cons c rest =>
    have hnot : ∀ d ∈ (skipBlanks (c :: rest)).head?, isScalarChar d = false := by
      intro d hd
      have hall : ['#', '\n', '\r', ',', ']', '\x7d'].all (!isScalarChar ·) := by decide
      simpa using List.all_eq_true.mp hall d (h d hd)
    rw [scalarRun]
    by_cases hblank : isBlankInLine c
    · have hskip : skipBlanks (c :: rest) = rest.dropWhile isBlankInLine := by
        simp [skipBlanks, hblank]
      rw [hskip] at hnot
      have hany : (rest.dropWhile isBlankInLine).head?.any isScalarChar = false := by
        rw [Option.any_eq_false]
        exact fun d hd => by simpa using hnot d hd
      simp [hblank, hany]
    · have hskip : skipBlanks (c :: rest) = c :: rest := by simp [skipBlanks, hblank]
      rw [hskip] at hnot
      simp [hblank, hnot c rfl]

theorem scalarRun_append {word : Text} (h : word.all isScalarChar) (rest : Text) :
    scalarRun (word ++ rest) = (word ++ (scalarRun rest).1, (scalarRun rest).2) := by
  induction word with
  | nil => rfl
  | cons c word ih =>
    rw [List.all_cons, Bool.and_eq_true] at h
    have hblank : isBlankInLine c = false := by
      rw [← Bool.not_eq_true]
      exact fun hblank => by simp [not_isScalarChar_of_isBlankInLine hblank] at h
    rw [List.cons_append, scalarRun]
    simp [hblank, h.1, ih h.2]

theorem Words.scalarRun_append (h : Words text) (hrest : Closes rest) :
    scalarRun (text ++ rest) = (text, rest) := by
  cases h with
  | one h => rw [Toml.scalarRun_append h, hrest.scalarRun_eq, List.append_nil]
  | @two first second hfirst _ hsecond hne =>
    have hsecondRun : scalarRun (second ++ rest) = (second, rest) := by
      rw [Toml.scalarRun_append hsecond, hrest.scalarRun_eq, List.append_nil]
    have hblankRun : scalarRun (' ' :: (second ++ rest)) = (' ' :: second, rest) := by
      obtain ⟨c, others, rfl⟩ := List.exists_cons_of_ne_nil hne
      have hc : isScalarChar c := (List.all_eq_true.mp hsecond) c (by simp)
      have hstops : isBlankInLine c = false := by
        rw [← Bool.not_eq_true]
        exact fun hblank => by simp [not_isScalarChar_of_isBlankInLine hblank] at hc
      rw [scalarRun, hsecondRun]
      simp [show isBlankInLine ' ' = true from rfl, hstops, hc]
    rw [List.append_assoc, List.cons_append, Toml.scalarRun_append hfirst, hblankRun]

theorem Words.exists_cons (h : Words text) : ∃ c others, text = c :: others ∧ isScalarChar c := by
  have hfirst {word : Text} (hword : word.all isScalarChar) (hne : word ≠ []) (rest : Text) :
      ∃ c others, word ++ rest = c :: others ∧ isScalarChar c := by
    obtain ⟨c, others, rfl⟩ := List.exists_cons_of_ne_nil hne
    exact ⟨c, others ++ rest, rfl, List.all_eq_true.mp hword c (by simp)⟩
  cases h with
  | one h hne => simpa using hfirst h hne []
  | two h hne => exact hfirst h hne _

/-- Characters of a kind that none of the characters with a meaning is of are part of words. -/
theorem all_isScalarChar (kind : Char → Bool)
    (hkind : "=,[]\x7b\x7d \t#\r\n'\"".toList.all (!kind ·)) (h : text.all kind) :
    text.all isScalarChar := by
  rw [List.all_eq_true] at h hkind ⊢
  intro c hc
  rw [isScalarChar, Bool.not_eq_true', ← Bool.not_eq_true, List.contains_iff_mem]
  intro hmem
  simpa [h c hc] using hkind c hmem

theorem Grouped.all_isScalarChar {isDigit : Char → Bool} {digits : Text}
    (hkind : "=,[]\x7b\x7d \t#\r\n'\"".toList.all fun c => !(isDigit c || c == '_'))
    (h : Grouped isDigit digits text) : text.all isScalarChar := by
  refine Toml.all_isScalarChar _ hkind (List.all_eq_true.mpr fun c hc => ?_)
  simpa using h.isDigit_or c hc

theorem IntegerText.words {n : Int} (h : IntegerText n text) : Words text := by
  cases h with
  | decimal hsign h =>
    refine .one (all_isScalarChar isDecimalChar rfl ?_) ?_
    · rw [List.all_append, all_isDecimalChar_sign hsign, h.grouped.all_isDecimalChar]
      rfl
    · obtain ⟨c, others, rfl, -⟩ := h.grouped.exists_cons
      simp
  | based hbase h =>
    simp only [bases, List.mem_cons, Prod.mk.injEq, List.not_mem_nil, or_false] at hbase
    refine .one ?_ (List.cons_ne_nil _ _)
    rcases hbase with ⟨rfl, rfl, rfl⟩ | ⟨rfl, rfl, rfl⟩ | ⟨rfl, rfl, rfl⟩ <;>
      simp only [List.all_cons, h.all_isScalarChar rfl] <;> rfl

theorem FloatText.words {finite : Bool} (h : FloatText finite text) : Words text := by
  cases h with
  | word hsign hword =>
    cases hsign <;> rcases hword with rfl | rfl <;> exact .one rfl (List.cons_ne_nil _ _)
  | digits hsign hwhole hfraction hexponent hsome =>
    refine .one (all_isScalarChar isDecimalChar rfl
      (all_isDecimalChar_append hsign hwhole hfraction hexponent)) ?_
    rw [List.append_assoc]
    exact fun h => hsome (List.append_eq_nil_iff.mp h).2

/-- A character of a date, a time or an offset. -/
def isDateChar (c : Char) : Bool := c.isDigit || ['-', ':', '.', '+', 'Z', 'z', 'T', 't'].contains c

theorem Fixed.all_isDateChar {width least most : Nat} (h : Fixed width least most text) :
    text.all isDateChar :=
  List.all_eq_true.mpr fun c hc => by rw [isDateChar, h.isDigit c hc, Bool.true_or]

theorem DateText.all_isDateChar (h : DateText text) : text.all isDateChar := by
  obtain ⟨hyear, hmonth, hday⟩ := h
  simp only [List.all_append, List.all_cons, hyear.all_isDateChar,
    hmonth.all_isDateChar, hday.all_isDateChar]
  rfl

theorem SecondFraction.all_isDateChar (h : SecondFraction text) : text.all isDateChar := by
  cases h with
  | none => rfl
  | @point digits hdigits =>
    have hall : digits.all isDateChar := List.all_eq_true.mpr fun c hc => by
      rw [isDateChar, hdigits c hc, Bool.true_or]
    rw [List.all_cons, hall]
    rfl

theorem TimeText.all_isDateChar (h : TimeText text) : text.all isDateChar := by
  cases h with
  | minutes hhour hminute =>
    simp only [List.all_append, List.all_cons, hhour.all_isDateChar, hminute.all_isDateChar]
    rfl
  | seconds hhour hminute hsecond hfraction =>
    simp only [List.all_append, List.all_cons, hhour.all_isDateChar,
      hminute.all_isDateChar, hsecond.all_isDateChar, hfraction.all_isDateChar]
    rfl

theorem OffsetText.all_isDateChar (h : OffsetText text) : text.all isDateChar := by
  cases h with
  | none => rfl
  | universal hc => rcases hc with rfl | rfl <;> rfl
  | hours hc hhours hminutes =>
    simp only [List.cons_append, List.all_append, List.all_cons, hhours.all_isDateChar,
      hminutes.all_isDateChar]
    rcases hc with rfl | rfl <;> rfl

theorem DateTimeText.words (h : DateTimeText text) : Words text := by
  have hword {word : Text} (h : word.all isDateChar) : word.all isScalarChar :=
    all_isScalarChar _ rfl h
  have hne := h.exists_cons
  cases h with
  | date h => exact .one (hword h.all_isDateChar) (by rintro rfl; simp at hne)
  | time h => exact .one (hword h.all_isDateChar) (by rintro rfl; simp at hne)
  | @both date time offset separator hdate hseparator htime hoffset =>
    have hsecond : (time ++ offset).all isScalarChar := by
      rw [List.all_append, hword htime.all_isDateChar, hword hoffset.all_isDateChar]
      rfl
    have hsecondNe : time ++ offset ≠ [] := by
      obtain ⟨c, others, rfl, -⟩ := (DateTimeText.time htime).exists_cons
      simp
    have hfirstNe : date ≠ [] := by
      obtain ⟨c, others, rfl, -⟩ := (DateTimeText.date hdate).exists_cons
      simp
    by_cases hblank : separator = ' '
    · rw [hblank, List.append_assoc, List.cons_append]
      exact .two (hword hdate.all_isDateChar) hfirstNe hsecond hsecondNe
    · have hchar : isDateChar separator := by
        simp only [isDateTimeSeparator, Bool.or_eq_true, beq_iff_eq] at hseparator
        rcases hseparator.resolve_right hblank with rfl | rfl <;> rfl
      refine .one (hword ?_) (by simp)
      simp only [List.all_append, List.all_cons, hdate.all_isDateChar, hchar,
        htime.all_isDateChar, hoffset.all_isDateChar]
      rfl

theorem ScalarText.words {value : Value} (h : ScalarText value text) : Words text := by
  cases h with
  | true => exact .one rfl (List.cons_ne_nil _ _)
  | false => exact .one rfl (List.cons_ne_nil _ _)
  | integer h => exact h.words
  | float h => exact h.words
  | dateTime h => exact h.words

end Words

theorem readScalar_append {value : Value} {written rest : Text} (h : ScalarText value written)
    (hrest : Closes rest) : readScalar (written ++ rest) = some (value, rest) := by
  simp [readScalar, h.words.scalarRun_append hrest, h.scalar?_eq]

end BenchRelay.Toml
