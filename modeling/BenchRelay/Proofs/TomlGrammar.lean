import BenchRelay.Proofs.JsonGrammar
import BenchRelay.Toml.Reader
import Mathlib.Algebra.Order.Field.Rat

/-!
# The grammar of TOML documents

How a document may be written: each rule relates what is said to its texts, so that a document has
many of them. They differ in blanks, comments and line breaks, in the kinds of quotes and the
escapes between them, and in the way numbers are written. Values are nested no deeper than given,
and a dotted key has no more parts than given. Where a key may be said twice, and which form of a
date is the standard one, is not a matter of grammar: the rules name the functions that decide it.
-/

namespace BenchRelay.Toml

open Json (Sign)

/-! ### Blanks, line breaks and comments -/

/-- Nothing but blanks within a line. -/
def Blank (text : Text) : Prop := ∀ c ∈ text, isBlankInLine c

/-- Nothing but characters that may stand in a comment. -/
def Printable (text : Text) : Prop := ∀ c ∈ text, isPrintable c

/-- How a line may end. -/
inductive LineBreak : Text → Prop
  | lf : LineBreak ['\n']
  | crlf : LineBreak ['\r', '\n']

/-- Blanks and line breaks, and comments in front of line breaks where there may be any. -/
inductive Gap (comments : Bool) : Text → Prop
  | nil : Gap comments []
  | blank {c : Char} {rest : Text} (hc : isBlankInLine c) (h : Gap comments rest) :
      Gap comments (c :: rest)
  | lineBreak {ending rest : Text} (hending : LineBreak ending) (h : Gap comments rest) :
      Gap comments (ending ++ rest)
  | comment {remark ending rest : Text} (hcomments : comments = true) (hremark : Printable remark)
      (hending : LineBreak ending) (h : Gap comments rest) :
      Gap comments ('#' :: remark ++ ending ++ rest)

/-- What may stand between the last character of a statement and the end of its line. -/
inductive LineRest : Text → Prop
  | blank {text : Text} (h : Blank text) : LineRest text
  | comment {before remark : Text} (hbefore : Blank before) (hremark : Printable remark) :
      LineRest (before ++ '#' :: remark)

/-! ### Strings -/

/-- The letters that stand behind a backslash, with the characters they are written for. -/
def letters : List (Char × Char) :=
  [('b', '\x08'), ('t', '\t'), ('n', '\n'), ('f', '\x0c'), ('r', '\r'), ('e', '\x1b'), ('"', '"'),
    ('\\', '\\')]

/-- The letters behind which a code point stands, and with how many hexadecimal digits. -/
def widths : List (Char × Nat) := [('x', 2), ('u', 4), ('U', 8)]

/-- How a character may be escaped, behind the backslash. -/
inductive Escape : Char → Text → Prop
  | letter {c e : Char} (h : (e, c) ∈ letters) : Escape c [e]
  | code {c e : Char} {width : Nat} {digits : Text} {values : List Nat}
      (hwidth : (e, width) ∈ widths) (hlength : digits.length = width)
      (hvalues : digits.mapM hexValue? = some values)
      (hcode : values.foldl (fun n value => n * 16 + value) 0 = c.toNat) : Escape c (e :: digits)

/-- How a text may be written between two quotes. -/
inductive Basic : Text → Text → Prop
  | nil : Basic [] []
  | plain {c : Char} {text written : Text} (hprintable : isPrintable c) (hquote : c ≠ '"')
      (hslash : c ≠ '\\') (h : Basic text written) : Basic (c :: text) (c :: written)
  | escape {c : Char} {e text written : Text} (he : Escape c e) (h : Basic text written) :
      Basic (c :: text) ('\\' :: e ++ written)

/-- A text that stands for itself between two single quotes. -/
def Literal (text : Text) : Prop := ∀ c ∈ text, isPrintable c ∧ c ≠ '\''

/-- How a text may be written over several lines, with its closing quotes. Where there are escapes,
a backslash at the end of a line joins it with the next character that is no blank. -/
inductive Lines (quoteMark : Char) (escapes : Bool) : Text → Text → Prop
  | closed {count : Nat} (hcount : count ≤ 2) :
      Lines quoteMark escapes (List.replicate count quoteMark)
        (List.replicate (count + 3) quoteMark)
  | quotes {count : Nat} {text written : Text} (hcount : count ≤ 2)
      (hnext : ∀ c ∈ written.head?, c ≠ quoteMark) (h : Lines quoteMark escapes text written) :
      Lines quoteMark escapes (List.replicate count quoteMark ++ text)
        (List.replicate count quoteMark ++ written)
  | plain {c : Char} {text written : Text} (hplain : c = '\n' ∨ isPrintable c)
      (hquote : c ≠ quoteMark) (hslash : escapes → c ≠ '\\')
      (h : Lines quoteMark escapes text written) :
      Lines quoteMark escapes (c :: text) (c :: written)
  | crlf {text written : Text} (h : Lines quoteMark escapes text written) :
      Lines quoteMark escapes ('\r' :: '\n' :: text) ('\r' :: '\n' :: written)
  | escape {c : Char} {e text written : Text} (hescapes : escapes = true) (he : Escape c e)
      (h : Lines quoteMark escapes text written) :
      Lines quoteMark escapes (c :: text) ('\\' :: e ++ written)
  | joined {blank ending gap text written : Text} (hescapes : escapes = true)
      (hblank : Blank blank) (hending : LineBreak ending) (hgap : Gap false gap)
      (hnext : ∀ c ∈ written.head?, isBlankInLine c = false ∧ c ≠ '\n' ∧ c ≠ '\r')
      (h : Lines quoteMark escapes text written) :
      Lines quoteMark escapes text ('\\' :: blank ++ ending ++ gap ++ written)

/-- How a text may be quoted. Of the lines of a text, a break right behind the opening quotes is no
part. -/
inductive QuotedText : Text → Text → Prop
  | basic {text written : Text} (h : Basic text written) : QuotedText text ('"' :: written ++ ['"'])
  | literal {text : Text} (h : Literal text) : QuotedText text ('\'' :: text ++ ['\''])
  | basicLines {start text written : Text}
      (hstart : LineBreak start ∨ start = [] ∧ lineBreak? written = none)
      (h : Lines '"' true text written) :
      QuotedText text ('"' :: '"' :: '"' :: start ++ written)
  | literalLines {start text written : Text}
      (hstart : LineBreak start ∨ start = [] ∧ lineBreak? written = none)
      (h : Lines '\'' false text written) :
      QuotedText text ('\'' :: '\'' :: '\'' :: start ++ written)

/-! ### Numbers -/

/-- Digits that may have an underscore between two of them. -/
inductive Grouped (isDigit : Char → Bool) : Text → Text → Prop
  | last {c : Char} (hc : isDigit c) : Grouped isDigit [c] [c]
  | next {c : Char} {digits written : Text} (hc : isDigit c) (h : Grouped isDigit digits written) :
      Grouped isDigit (c :: digits) (c :: written)
  | underscore {c : Char} {digits written : Text} (hc : isDigit c)
      (h : Grouped isDigit digits written) : Grouped isDigit (c :: digits) (c :: '_' :: written)

/-- The digits before a point or of an integer: a zero stands there alone. -/
structure Whole (digits written : Text) : Prop where
  grouped : Grouped Char.isDigit digits written
  alone : digits.head? = some '0' → digits.length = 1

/-- The bases other than ten: the letter behind a zero, the base, and its digits. -/
def bases : List (Char × Nat × (Char → Bool)) :=
  [('x', 16, isHexDigit), ('o', 8, isOctalDigit), ('b', 2, isBinaryDigit)]

/-- How an integer may be written. -/
inductive IntegerText : Int → Text → Prop
  | decimal {negative : Bool} {sign digits written : Text} (hsign : Sign negative sign)
      (h : Whole digits written) :
      IntegerText (if negative then -(ofDigits 10 digits : Int) else ofDigits 10 digits)
        (sign ++ written)
  | based {letter : Char} {base : Nat} {isDigit : Char → Bool} {digits written : Text}
      (hbase : (letter, base, isDigit) ∈ bases) (h : Grouped isDigit digits written) :
      IntegerText (ofDigits base digits) ('0' :: letter :: written)

/-- The point and the digits behind it, if there are any. -/
inductive Fraction : Text → Text → Prop
  | none : Fraction [] []
  | point {digits written : Text} (h : Grouped Char.isDigit digits written) :
      Fraction digits ('.' :: written)

/-- The exponent, if there is one. -/
inductive Exponent : Int → Text → Prop
  | none : Exponent 0 []
  | power {mark : Char} {negative : Bool} {sign digits written : Text} (hmark : isExponentMark mark)
      (hsign : Sign negative sign) (h : Grouped Char.isDigit digits written) :
      Exponent (if negative then -(ofDigits 10 digits : Int) else ofDigits 10 digits)
        (mark :: sign ++ written)

/-- Digits times a power of ten. -/
def magnitude (digits : Text) (exponent : Int) : ℚ := ofDigits 10 digits * 10 ^ exponent

/-- How a number with a point or an exponent may be written, an infinity, or no number at all; and
whether it rounds to a finite double where it has digits. -/
inductive FloatText : Bool → Text → Prop
  | word {negative : Bool} {sign word : Text} (hsign : Sign negative sign)
      (hword : word = ['i', 'n', 'f'] ∨ word = ['n', 'a', 'n']) : FloatText true (sign ++ word)
  | digits {negative : Bool} {sign whole w fraction f e : Text} {exponent : Int}
      (hsign : Sign negative sign) (hwhole : Whole whole w) (hfraction : Fraction fraction f)
      (hexponent : Exponent exponent e) (hsome : f ++ e ≠ []) :
      FloatText (magnitude (whole ++ fraction) (exponent - fraction.length) < doubleOverflow)
        (sign ++ w ++ f ++ e)

/-! ### Dates and times -/

/-- So many digits of a number within bounds. -/
structure Fixed (width least most : Nat) (text : Text) : Prop where
  length : text.length = width
  isDigit : ∀ c ∈ text, c.isDigit
  least : least ≤ ofDigits 10 text
  most : ofDigits 10 text ≤ most

/-- How a date may be written. -/
inductive DateText : Text → Prop
  | parts {year month day : Text} (hyear : Fixed 4 0 9999 year) (hmonth : Fixed 2 1 12 month)
      (hday : Fixed 2 1 (daysIn (ofDigits 10 year) (ofDigits 10 month)) day) :
      DateText (year ++ '-' :: month ++ '-' :: day)

/-- The fraction of a second, if there is one. -/
inductive SecondFraction : Text → Prop
  | none : SecondFraction []
  | point {digits : Text} (hdigits : ∀ c ∈ digits, c.isDigit) (hsome : digits ≠ []) :
      SecondFraction ('.' :: digits)

/-- How a time may be written. A minute may have one second more than others. -/
inductive TimeText : Text → Prop
  | minutes {hour minute : Text} (hhour : Fixed 2 0 23 hour) (hminute : Fixed 2 0 59 minute) :
      TimeText (hour ++ ':' :: minute)
  | seconds {hour minute second fraction : Text} (hhour : Fixed 2 0 23 hour)
      (hminute : Fixed 2 0 59 minute) (hsecond : Fixed 2 0 60 second)
      (hfraction : SecondFraction fraction) :
      TimeText (hour ++ ':' :: minute ++ ':' :: second ++ fraction)

/-- The offset of a time from universal time, if there is one. -/
inductive OffsetText : Text → Prop
  | none : OffsetText []
  | universal {c : Char} (hc : c = 'Z' ∨ c = 'z') : OffsetText [c]
  | hours {c : Char} {hours minutes : Text} (hc : c = '+' ∨ c = '-') (hhours : Fixed 2 0 23 hours)
      (hminutes : Fixed 2 0 59 minutes) : OffsetText (c :: hours ++ ':' :: minutes)

/-- How a date, a time, or both may be written. -/
inductive DateTimeText : Text → Prop
  | date {date : Text} (h : DateText date) : DateTimeText date
  | time {time : Text} (h : TimeText time) : DateTimeText time
  | both {date time offset : Text} {separator : Char} (hdate : DateText date)
      (hseparator : isDateTimeSeparator separator) (htime : TimeText time)
      (hoffset : OffsetText offset) : DateTimeText (date ++ separator :: time ++ offset)

/-- How a value without brackets or quotes may be written. -/
inductive ScalarText : Value → Text → Prop
  | true : ScalarText (.boolean true) ['t', 'r', 'u', 'e']
  | false : ScalarText (.boolean false) ['f', 'a', 'l', 's', 'e']
  | integer {n : Int} {text : Text} (h : IntegerText n text) : ScalarText (.integer n) text
  | float {finite : Bool} {text : Text} (h : FloatText finite text) :
      ScalarText (.float finite) text
  | dateTime {text : Text} (h : DateTimeText text) :
      ScalarText (.dateTime ((dateTime? text).getD [])) text

/-! ### Keys and values -/

/-- How a key may be written. -/
inductive KeyText : Text → Text → Prop
  | bare {key : Text} (hkey : ∀ c ∈ key, isBareKeyChar c) (hsome : key ≠ []) : KeyText key key
  | basic {key written : Text} (h : Basic key written) : KeyText key ('"' :: written ++ ['"'])
  | literal {key : Text} (h : Literal key) : KeyText key ('\'' :: key ++ ['\''])

/-- How a dotted key of so many parts at most may be written, with the blanks behind it. -/
inductive PathText : Nat → Path → Text → Prop
  | last {most : Nat} {key written after : Text} (h : KeyText key written) (hafter : Blank after) :
      PathText (most + 1) ⟨[], key⟩ (written ++ after)
  | dotted {most : Nat} {key written before after rest : Text} {path : Path}
      (h : KeyText key written) (hbefore : Blank before) (hafter : Blank after)
      (hrest : PathText most path rest) :
      PathText (most + 1) ⟨key :: path.parents, path.key⟩
        (written ++ before ++ '.' :: after ++ rest)

/-- Add entries to an inline table one after another, unless one says a key again. -/
def insertAll? (made : Entries) (entries : List (Path × Value)) : Option Entries :=
  entries.foldlM (fun made entry => made.insertPath? entry.1 entry.2) made

/-- What is written: a value, or all that stands behind the opening bracket of a value. -/
inductive Part where
  | value (value : Value)
  | items (items : List Value)
  | entries (entries : List (Path × Value))

/-- How a part may be written whose values are nested no deeper than given, with a limit on the
parts of its dotted keys. -/
inductive Written (limit : Nat) : Nat → Part → Text → Prop
  | string {depth : Nat} {text written : Text} (h : QuotedText text written) :
      Written limit depth (.value (.string text)) written
  | scalar {depth : Nat} {value : Value} {written : Text} (h : ScalarText value written) :
      Written limit depth (.value value) written
  | array {depth : Nat} {items : List Value} {before written : Text} (hbefore : Gap true before)
      (h : Written limit depth (.items items) written) :
      Written limit (depth + 1) (.value (.array items)) ('[' :: before ++ written)
  | table {depth : Nat} {entries : List (Path × Value)} {made : Entries} {before written : Text}
      (hbefore : Gap true before) (h : Written limit depth (.entries entries) written)
      (hmade : insertAll? [] entries = some made) :
      Written limit (depth + 1) (.value (.table (entriesToValues made)))
        ('\x7b' :: before ++ written)
  | noItems {depth : Nat} : Written limit depth (.items []) [']']
  | lastItem {depth : Nat} {item : Value} {written after : Text}
      (h : Written limit depth (.value item) written) (hafter : Gap true after) :
      Written limit depth (.items [item]) (written ++ after ++ [']'])
  | item {depth : Nat} {item : Value} {items : List Value} {written before after rest : Text}
      (h : Written limit depth (.value item) written) (hbefore : Gap true before)
      (hafter : Gap true after) (hrest : Written limit depth (.items items) rest) :
      Written limit depth (.items (item :: items)) (written ++ before ++ ',' :: after ++ rest)
  | noEntries {depth : Nat} : Written limit depth (.entries []) ['\x7d']
  | lastEntry {depth : Nat} {path : Path} {item : Value} {key gap start written after : Text}
      (hkey : PathText limit path key) (hgap : Gap true gap) (hstart : Gap true start)
      (h : Written limit depth (.value item) written) (hafter : Gap true after) :
      Written limit depth (.entries [(path, item)])
        (key ++ gap ++ '=' :: start ++ written ++ after ++ ['\x7d'])
  | entry {depth : Nat} {path : Path} {item : Value} {entries : List (Path × Value)}
      {key gap start written before after rest : Text} (hkey : PathText limit path key)
      (hgap : Gap true gap) (hstart : Gap true start)
      (h : Written limit depth (.value item) written) (hbefore : Gap true before)
      (hafter : Gap true after) (hrest : Written limit depth (.entries entries) rest) :
      Written limit depth (.entries ((path, item) :: entries))
        (key ++ gap ++ '=' :: start ++ written ++ before ++ ',' :: after ++ rest)

/-! ### Documents -/

/-- How a statement may be written up to the end of its line. -/
inductive StatementText (limit : Nat) : Statement → Text → Prop
  | entry {path : Path} {value : Value} {key blank written rest : Text}
      (hkey : PathText limit path key) (hblank : Blank blank)
      (h : Written limit limit (.value value) written) (hrest : LineRest rest) :
      StatementText limit (.entry path value) (key ++ '=' :: blank ++ written ++ rest)
  | header {path : Path} {blank key rest : Text} (hblank : Blank blank)
      (hkey : PathText limit path key) (hrest : LineRest rest) :
      StatementText limit (.header path) ('[' :: blank ++ key ++ ']' :: rest)
  | itemHeader {path : Path} {blank key rest : Text} (hblank : Blank blank)
      (hkey : PathText limit path key) (hrest : LineRest rest) :
      StatementText limit (.itemHeader path) ('[' :: '[' :: blank ++ key ++ ']' :: ']' :: rest)

/-- How the statements of a document may be written. -/
inductive LinesText (limit : Nat) : List Statement → Text → Prop
  | done {before rest : Text} (hbefore : Gap true before) (hrest : LineRest rest) :
      LinesText limit [] (before ++ rest)
  | last {statement : Statement} {before written : Text} (hbefore : Gap true before)
      (h : StatementText limit statement written) : LinesText limit [statement] (before ++ written)
  | next {statement : Statement} {statements : List Statement} {before written ending rest : Text}
      (hbefore : Gap true before) (h : StatementText limit statement written)
      (hending : LineBreak ending) (hrest : LinesText limit statements rest) :
      LinesText limit (statement :: statements) (before ++ written ++ ending ++ rest)

/-- A document, which may begin with a byte order mark. -/
inductive DocumentText (limit : Nat) (statements : List Statement) : Text → Prop
  | plain {text : Text} (h : LinesText limit statements text) : DocumentText limit statements text
  | marked {text : Text} (h : LinesText limit statements text) :
      DocumentText limit statements ('\uFEFF' :: text)

end BenchRelay.Toml
