import BenchRelay.Json.Reader

/-!
# The grammar of JSON texts

How values may be written: each rule of the grammar relates what is written to its texts, so that a
value has many of them. They differ in blanks, in the escapes of their strings and in the way an
exponent is written. A value is nested no deeper than given, and what its numbers have to fulfil is
a parameter.
-/

namespace BenchRelay.Json

/-- Nothing but blanks. -/
def Blank (text : Text) : Prop := ∀ c ∈ text, isSpace c

theorem blank_nil : Blank [] := nofun

/-! ### Strings -/

/-- The letters that stand behind a backslash, with the characters they are written for. -/
def letters : List (Char × Char) :=
  [('"', '"'), ('\\', '\\'), ('/', '/'), ('b', '\x08'), ('f', '\x0c'), ('n', '\n'), ('r', '\r'),
    ('t', '\t')]

/-- Four hexadecimal digits of a number. -/
inductive FourHex : Nat → Text → Prop
  | digits {a b c d : Char} {p q r s : Nat} (ha : hexValue? a = some p) (hb : hexValue? b = some q)
      (hc : hexValue? c = some r) (hd : hexValue? d = some s) :
      FourHex (((p * 16 + q) * 16 + r) * 16 + s) [a, b, c, d]

/-- How a character may be escaped, behind the backslash: by a letter, by its code, or by a pair of
codes if one has too few digits. -/
inductive Escape : Char → Text → Prop
  | letter {c e : Char} (h : (e, c) ∈ letters) : Escape c [e]
  | code {c : Char} {digits : Text} (h : FourHex c.toNat digits) : Escape c ('u' :: digits)
  | pair {c : Char} {high low : Nat} {first second : Text} (hhigh : isHighSurrogate high)
      (hlow : isLowSurrogate low)
      (hcode : c.toNat = 0x10000 + (high - 0xD800) * 0x400 + (low - 0xDC00))
      (hfirst : FourHex high first) (hsecond : FourHex low second) :
      Escape c ('u' :: first ++ '\\' :: 'u' :: second)

/-- How a text may be written between quotes. -/
inductive Quoted : Text → Text → Prop
  | nil : Quoted [] []
  | plain {c : Char} {text written : Text} (hquote : c ≠ '"') (hslash : c ≠ '\\')
      (hcontrol : 0x20 ≤ c.toNat) (h : Quoted text written) : Quoted (c :: text) (c :: written)
  | escape {c : Char} {e text written : Text} (he : Escape c e) (h : Quoted text written) :
      Quoted (c :: text) ('\\' :: e ++ written)

/-- A character that may stand for itself in a string. -/
def isPlain (c : Char) : Bool := c != '"' && c != '\\' && 0x20 ≤ c.toNat

theorem Quoted.of_plain {text : Text} (h : text.all isPlain) : Quoted text text := by
  induction text with
  | nil => exact .nil
  | cons c text ih =>
    simp only [List.all_cons, isPlain, Bool.and_eq_true, bne_iff_ne, decide_eq_true_eq] at h
    obtain ⟨⟨⟨hquote, hslash⟩, hcontrol⟩, hrest⟩ := h
    exact .plain hquote hslash hcontrol (ih hrest)

/-! ### Numbers -/

/-- Decimal digits with their values, at least one. -/
structure Digits (values : List Nat) (text : Text) : Prop where
  isDigit : ∀ c ∈ text, c.isDigit
  values_eq : values = text.map digitValue
  ne_nil : text ≠ []

/-- The digits before the point: a zero stands there alone. -/
structure Whole (values : List Nat) (text : Text) : Prop extends Digits values text where
  alone : values.head? = some 0 → values.length = 1

/-- The point and the digits after it, if there are any. -/
inductive Fraction : List Nat → Text → Prop
  | none : Fraction [] []
  | point {values : List Nat} {text : Text} (h : Digits values text) : Fraction values ('.' :: text)

/-- The sign of an exponent. -/
inductive Sign : Bool → Text → Prop
  | none : Sign false []
  | plus : Sign false ['+']
  | minus : Sign true ['-']

/-- The exponent, if there is one. -/
inductive Exponent : Int → Text → Prop
  | none : Exponent 0 []
  | power {e : Char} {negative : Bool} {sign text : Text} {values : List Nat}
      (he : e = 'e' ∨ e = 'E') (hsign : Sign negative sign) (h : Digits values text) :
      Exponent (if negative then -(ofDigits values : Int) else ofDigits values) (e :: sign ++ text)

/-- How a number may be written. -/
inductive NumberText : Numeral → Text → Prop
  | parts {negative : Bool} {whole fraction : List Nat} {exponent : Int} {w f e : Text}
      (hwhole : Whole whole w) (hfraction : Fraction fraction f) (hexponent : Exponent exponent e) :
      NumberText { negative, whole, fraction, exponent }
        ((if negative then ['-'] else []) ++ w ++ f ++ e)

/-! ### Values -/

/-- How the name of a member may be written, with the colon behind it. -/
inductive NameText : Text → Text → Prop
  | colon {name written before after : Text} (h : Quoted name written) (hbefore : Blank before)
      (hafter : Blank after) : NameText name ('"' :: written ++ '"' :: before ++ ':' :: after)

/-- The comma between two neighbours. -/
inductive Comma : Text → Prop
  | blanks {before after : Text} (hbefore : Blank before) (hafter : Blank after) :
      Comma (before ++ ',' :: after)

theorem NameText.of_plain {name : Text} (h : name.all isPlain) :
    NameText name ('"' :: name ++ ['"', ':']) := by
  simpa using NameText.colon (.of_plain h) blank_nil blank_nil

theorem Comma.alone : Comma [','] := .blanks blank_nil blank_nil

/-- What is written: a value, or all that stands between the brackets of a value. -/
inductive Part where
  | value (value : Json)
  | items (items : List Json)
  | members (members : List (Text × Json))

/-- How a part may be written whose values are nested no deeper than given. -/
inductive Written (finite : Numeral → Prop) : Nat → Part → Text → Prop
  | null {depth : Nat} : Written finite depth (.value .null) ['n', 'u', 'l', 'l']
  | true {depth : Nat} : Written finite depth (.value (.bool true)) ['t', 'r', 'u', 'e']
  | false {depth : Nat} : Written finite depth (.value (.bool false)) ['f', 'a', 'l', 's', 'e']
  | number {depth : Nat} {numeral : Numeral} {text : Text} (h : NumberText numeral text)
      (hfinite : finite numeral) : Written finite depth (.value (.number numeral)) text
  | string {depth : Nat} {text written : Text} (h : Quoted text written) :
      Written finite depth (.value (.string text)) ('"' :: written ++ ['"'])
  | noItems {depth : Nat} {between : Text} (hbetween : Blank between) :
      Written finite (depth + 1) (.value (.array [])) ('[' :: between ++ [']'])
  | array {depth : Nat} {items : List Json} {before text after : Text} (hbefore : Blank before)
      (h : Written finite depth (.items items) text) (hafter : Blank after) :
      Written finite (depth + 1) (.value (.array items)) ('[' :: before ++ text ++ after ++ [']'])
  | noMembers {depth : Nat} {between : Text} (hbetween : Blank between) :
      Written finite (depth + 1) (.value (.object [])) ('\x7b' :: between ++ ['\x7d'])
  | object {depth : Nat} {members : List (Text × Json)} {before text after : Text}
      (hbefore : Blank before) (h : Written finite depth (.members members) text)
      (hafter : Blank after) :
      Written finite (depth + 1) (.value (.object members))
        ('\x7b' :: before ++ text ++ after ++ ['\x7d'])
  | lastItem {depth : Nat} {item : Json} {text : Text}
      (h : Written finite depth (.value item) text) : Written finite depth (.items [item]) text
  | item {depth : Nat} {item : Json} {items : List Json} {first comma rest : Text}
      (hfirst : Written finite depth (.value item) first) (hcomma : Comma comma)
      (hrest : Written finite depth (.items items) rest) :
      Written finite depth (.items (item :: items)) (first ++ comma ++ rest)
  | lastMember {depth : Nat} {name : Text} {item : Json} {start text : Text}
      (hname : NameText name start) (h : Written finite depth (.value item) text) :
      Written finite depth (.members [(name, item)]) (start ++ text)
  | member {depth : Nat} {name : Text} {item : Json} {members : List (Text × Json)}
      {start first comma rest : Text} (hname : NameText name start)
      (hfirst : Written finite depth (.value item) first) (hcomma : Comma comma)
      (hrest : Written finite depth (.members members) rest) :
      Written finite depth (.members ((name, item) :: members)) (start ++ first ++ comma ++ rest)

theorem Written.string_of_plain {finite : Numeral → Prop} {depth : Nat} {text : Text}
    (h : text.all isPlain) : Written finite depth (.value (.string text)) ('"' :: text ++ ['"']) :=
  .string (.of_plain h)

/-- A text that is one value and nothing else, but for blanks around it. -/
def IsText (finite : Numeral → Prop) (depth : Nat) (value : Json) (text : Text) : Prop :=
  ∃ before written after, Blank before ∧ Blank after ∧ text = before ++ written ++ after ∧
    Written finite depth (.value value) written

end BenchRelay.Json
