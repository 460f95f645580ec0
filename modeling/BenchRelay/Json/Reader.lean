import BenchRelay.Json.Basic

/-!
# Reading JSON

Every reader takes a text and gives what it read with the text behind it. The text is read from left
to right and the first fault decides: characters that no JSON text has there, or the end of the text
where more has to come. Arrays and objects may be nested to a given depth.
-/

namespace BenchRelay.Json

/-- Why a text does not have the value that is asked for. -/
inductive Fault where
  /-- It is no JSON text. -/
  | malformed
  /-- It ends too early. -/
  | cutShort
  /-- It is JSON but another value. -/
  | unfit
  deriving Repr, DecidableEq

/-- The blanks between the parts of a JSON text. -/
def isSpace (c : Char) : Bool := c == ' ' || c == '\t' || c == '\n' || c == '\r'

/-- The text behind any blanks. -/
def skipSpaces (text : Text) : Text := text.dropWhile isSpace

/-- The fault of a text where something else is expected. -/
def faultAt : Text → Fault
  | [] => .cutShort
  | _ :: _ => .malformed

/-- Read given characters. -/
def readWord : (expected text : Text) → Except Fault Text
  | [], text => .ok text
  | _ :: _, [] => .error .cutShort
  | a :: expected, b :: text => if a = b then readWord expected text else .error .malformed

/-- The value of a hexadecimal digit. -/
def hexValue? (c : Char) : Option Nat :=
  if '0' ≤ c ∧ c ≤ '9' then some (c.toNat - '0'.toNat)
  else if 'a' ≤ c ∧ c ≤ 'f' then some (c.toNat - 'a'.toNat + 10)
  else if 'A' ≤ c ∧ c ≤ 'F' then some (c.toNat - 'A'.toNat + 10)
  else none

/-- Read four hexadecimal digits. The text ends too early if it has fewer than four bytes left. -/
def readFourHex : Text → Except Fault (Nat × Text)
  | a :: b :: c :: d :: rest =>
    match hexValue? a, hexValue? b, hexValue? c, hexValue? d with
    | some a, some b, some c, some d => .ok (((a * 16 + b) * 16 + c) * 16 + d, rest)
    | _, _, _, _ => .error .malformed
  | rest => .error (if rest.utf8.length < 4 then .cutShort else .malformed)

/-- Whether a code is the first half of a pair. -/
def isHighSurrogate (code : Nat) : Bool := 0xD800 ≤ code && code ≤ 0xDBFF

/-- Whether a code is the second half of a pair. -/
def isLowSurrogate (code : Nat) : Bool := 0xDC00 ≤ code && code ≤ 0xDFFF

/-- The character of a pair of codes. -/
def ofSurrogates (high low : Nat) : Char :=
  Char.ofNat (0x10000 + (high - 0xD800) * 0x400 + (low - 0xDC00))

/-- Read the rest of an escape of a code point: four digits, and an escape of the second half if
they are the first half of a pair. -/
def readCodePoint (text : Text) : Except Fault (Char × Text) := do
  let (code, rest) ← readFourHex text
  if isLowSurrogate code then .error .malformed
  else if isHighSurrogate code then
    let rest ← readWord ['\\', 'u'] rest
    let (low, rest) ← readFourHex rest
    if isLowSurrogate low then .ok (ofSurrogates code low, rest) else .error .malformed
  else .ok (Char.ofNat code, rest)

/-- The character that a one-letter escape stands for. -/
def escaped? : Char → Option Char
  | '"' => some '"'
  | '\\' => some '\\'
  | '/' => some '/'
  | 'b' => some '\x08'
  | 'f' => some '\x0c'
  | 'n' => some '\n'
  | 'r' => some '\r'
  | 't' => some '\t'
  | _ => none

/-- Read an escape behind its backslash. -/
def readEscape : Text → Except Fault (Char × Text)
  | [] => .error .cutShort
  | 'u' :: rest => readCodePoint rest
  | c :: rest =>
    match escaped? c with
    | some c => .ok (c, rest)
    | none => .error .malformed

/-- Read the rest of a string behind its first quote, and behind the characters already read (last
one first). -/
def readStringFrom : (fuel : Nat) → (seen text : Text) → Except Fault (Text × Text)
  | 0, _, _ => .error .cutShort
  | _ + 1, _, [] => .error .cutShort
  | fuel + 1, seen, c :: rest =>
    if c = '"' then .ok (seen.reverse, rest)
    else if c = '\\' then do
      let (c, rest) ← readEscape rest
      readStringFrom fuel (c :: seen) rest
    else if c.toNat < 0x20 then .error .malformed
    else readStringFrom fuel (c :: seen) rest

/-- Read the rest of a string behind its first quote. -/
def readString (text : Text) : Except Fault (Text × Text) :=
  readStringFrom (text.length + 1) [] text

/-- The value of a decimal digit. -/
def digitValue (c : Char) : Nat := c.toNat - '0'.toNat

/-- Read decimal digits as far as they go. -/
def readDigits (text : Text) : List Nat × Text :=
  ((text.takeWhile Char.isDigit).map digitValue, text.dropWhile Char.isDigit)

/-- Read decimal digits, at least one. -/
def readSomeDigits (text : Text) : Except Fault (List Nat × Text) :=
  match readDigits text with
  | ([], rest) => .error (faultAt rest)
  | read => .ok read

/-- Read the digits before the point: a zero alone, or digits that begin with another one. -/
def readWhole (text : Text) : Except Fault (List Nat × Text) := do
  let (read, rest) ← readSomeDigits text
  if read.head? = some 0 ∧ read.length ≠ 1 then .error .malformed else .ok (read, rest)

/-- Read the digits after the point, if there is one. -/
def readFraction : Text → Except Fault (List Nat × Text)
  | '.' :: rest => readSomeDigits rest
  | text => .ok ([], text)

/-- The number that digits stand for. -/
def ofDigits (read : List Nat) : Nat := read.foldl (fun n digit => n * 10 + digit) 0

/-- Read the exponent, if there is one. -/
def readExponent : Text → Except Fault (Int × Text)
  | c :: rest =>
    if c = 'e' ∨ c = 'E' then do
      let (negative, rest) := match rest with
        | '-' :: rest => (true, rest)
        | '+' :: rest => (false, rest)
        | rest => (false, rest)
      let (read, rest) ← readSomeDigits rest
      .ok (if negative then -(ofDigits read : Int) else ofDigits read, rest)
    else .ok (0, c :: rest)
  | [] => .ok (0, [])

/-- Read a number. -/
def readNumber (text : Text) : Except Fault (Numeral × Text) := do
  let (negative, rest) := match text with
    | '-' :: rest => (true, rest)
    | rest => (false, rest)
  let (whole, rest) ← readWhole rest
  let (fraction, rest) ← readFraction rest
  let (exponent, rest) ← readExponent rest
  let numeral : Numeral := { negative, whole, fraction, exponent }
  if numeral.isFinite then .ok (numeral, rest) else .error .malformed

/-- Read a name in an object and the colon behind it. -/
def readName : Text → Except Fault (Text × Text)
  | '"' :: rest => do
    let (read, rest) ← readString rest
    let rest ← readWord [':'] (skipSpaces rest)
    .ok (read, skipSpaces rest)
  | text => .error (faultAt text)

/-- What follows an item: the next one, or the end of the list. -/
inductive After where
  | next (rest : Text)
  | last (rest : Text)

/-- Read the comma or the closing bracket behind an item. -/
def readAfter (closing : Char) (text : Text) : Except Fault After :=
  match skipSpaces text with
  | [] => .error .cutShort
  | c :: rest =>
    if c = ',' then .ok (.next (skipSpaces rest))
    else if c = closing then .ok (.last rest)
    else .error .malformed

mutual

/-- Read a value that begins right here. -/
def readValueFrom : (fuel depth : Nat) → Text → Except Fault (Json × Text)
  | 0, _, _ => .error .cutShort
  | _ + 1, _, [] => .error .cutShort
  | fuel + 1, depth, c :: rest =>
    if c = '"' then do
      let (read, rest) ← readString rest
      .ok (.string read, rest)
    else if c = '[' then
      match depth with
      | 0 => .error .malformed
      | depth + 1 =>
        match skipSpaces rest with
        | ']' :: rest => .ok (.array [], rest)
        | rest => do
          let (items, rest) ← readItemsFrom fuel depth rest
          .ok (.array items, rest)
    else if c = '\x7b' then
      match depth with
      | 0 => .error .malformed
      | depth + 1 =>
        match skipSpaces rest with
        | '\x7d' :: rest => .ok (.object [], rest)
        | rest => do
          let (members, rest) ← readMembersFrom fuel depth rest
          .ok (.object members, rest)
    else if c = '-' ∨ c.isDigit then do
      let (read, rest) ← readNumber (c :: rest)
      .ok (.number read, rest)
    else if c = 't' then do .ok (.bool true, ← readWord ['r', 'u', 'e'] rest)
    else if c = 'f' then do .ok (.bool false, ← readWord ['a', 'l', 's', 'e'] rest)
    else if c = 'n' then do .ok (.null, ← readWord ['u', 'l', 'l'] rest)
    else .error .malformed

/-- Read the items of an array up to its end. -/
def readItemsFrom : (fuel depth : Nat) → Text → Except Fault (List Json × Text)
  | 0, _, _ => .error .cutShort
  | fuel + 1, depth, text => do
    let (item, rest) ← readValueFrom fuel depth text
    match ← readAfter ']' rest with
    | .last rest => .ok ([item], rest)
    | .next rest =>
      let (items, rest) ← readItemsFrom fuel depth rest
      .ok (item :: items, rest)

/-- Read the members of an object up to its end. -/
def readMembersFrom : (fuel depth : Nat) → Text → Except Fault (List (Text × Json) × Text)
  | 0, _, _ => .error .cutShort
  | fuel + 1, depth, text => do
    let (key, rest) ← readName text
    let (item, rest) ← readValueFrom fuel depth rest
    match ← readAfter '\x7d' rest with
    | .last rest => .ok ([(key, item)], rest)
    | .next rest =>
      let (members, rest) ← readMembersFrom fuel depth rest
      .ok ((key, item) :: members, rest)

end

/-- Enough fuel for all values in a text: two steps for each of its characters. -/
def fuelFor (text : Text) : Nat := 2 * text.length + 2

/-- Read a value that begins right here and is nested no deeper than given. -/
def readValue (depth : Nat) (text : Text) : Except Fault (Json × Text) :=
  readValueFrom (fuelFor text) depth text

end BenchRelay.Json
