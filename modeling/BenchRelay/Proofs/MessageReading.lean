import BenchRelay.Message.Json
import BenchRelay.Message.Read
import Mathlib.Data.List.Basic

/-!
# Messages are read back

Each way of writing a character in a JSON string is undone by the reader of strings: the escapes of
one letter, the four digits of a control character, and the character itself. A string ends at the
first quote that no escape hides, so the reader finds the end that the writer set. Reading the
members that a message is written with therefore gives the message.
-/

namespace BenchRelay.Message

theorem hexValue?_hexDigit : ∀ n < 16, Json.hexValue? (hexDigit n) = some n := by decide

/-- A character below U+0020 is read back from the digits of its code. -/
theorem readEscape_digits {c : Char} (h : c.toNat < 0x20) (rest : Text) :
    Json.readEscape ('u' :: '0' :: '0' :: hexDigit (c.toNat / 16) :: hexDigit (c.toNat % 16) ::
      rest) = .ok (c, rest) := by
  have hhigh := hexValue?_hexDigit (c.toNat / 16) (by omega)
  have hlow := hexValue?_hexDigit (c.toNat % 16) (by omega)
  have hzero : Json.hexValue? '0' = some 0 := by decide
  have hcode : Json.readFourHex ('0' :: '0' :: hexDigit (c.toNat / 16) ::
      hexDigit (c.toNat % 16) :: rest) = .ok (c.toNat, rest) := by
    simp only [Json.readFourHex, hzero, hhigh, hlow]
    congr 2
    omega
  have hhalf : Json.isLowSurrogate c.toNat = false ∧ Json.isHighSurrogate c.toNat = false := by
    simp only [Json.isLowSurrogate, Json.isHighSurrogate, Bool.and_eq_false_iff,
      decide_eq_false_iff_not]
    omega
  simp only [Json.readEscape, Json.readCodePoint, hcode, bind, Except.bind, hhalf,
    Bool.false_eq_true, if_false, Char.ofNat_toNat]

/-- An escaped character is read back. -/
theorem readStringFrom_escapeChar (fuel : ℕ) (seen : Text) (c : Char) (rest : Text) :
    Json.readStringFrom (fuel + 1) seen (escapeChar c ++ rest) =
      Json.readStringFrom fuel (c :: seen) rest := by
  unfold escapeChar
  split
  iterate 7 rfl
  next hquote hslash _ _ _ _ _ =>
    split
    · next hcontrol =>
      have hread := readEscape_digits hcontrol rest
      simp only [List.cons_append, List.nil_append]
      rw [Json.readStringFrom, if_neg (by decide), if_pos rfl, hread]
      rfl
    · next hcontrol =>
      simp only [List.cons_append, List.nil_append]
      rw [Json.readStringFrom, if_neg hquote, if_neg hslash, if_neg hcontrol]

/-- Escaped text is read back up to the quote behind it. -/
theorem readStringFrom_escaped (text : Text) {fuel : ℕ} (hfuel : text.length < fuel)
    (seen rest : Text) : Json.readStringFrom fuel seen (text.flatMap escapeChar ++ '"' :: rest) =
      .ok (seen.reverse ++ text, rest) := by
  induction text generalizing fuel seen with
  | nil =>
    obtain ⟨fuel, rfl⟩ := Nat.exists_eq_add_of_lt hfuel
    simp [Json.readStringFrom]
  | cons c text ih =>
    simp only [List.length_cons] at hfuel
    obtain ⟨fuel, rfl⟩ : ∃ later, fuel = later + 1 := ⟨fuel - 1, by omega⟩
    rw [List.flatMap_cons, List.append_assoc, readStringFrom_escapeChar, ih (by omega)]
    simp

theorem escapeChar_ne_nil (c : Char) : escapeChar c ≠ [] := by
  unfold escapeChar
  split
  iterate 7 simp
  split <;> simp

/-- No character is written in nothing. -/
theorem length_le_length_escaped (text : Text) :
    text.length ≤ (text.flatMap escapeChar).length := by
  induction text with
  | nil => simp
  | cons c text ih =>
    have hc := List.length_pos_iff.mpr (escapeChar_ne_nil c)
    simp only [List.flatMap_cons, List.length_append, List.length_cons]
    omega

theorem readString_escaped (text rest : Text) :
    Json.readString (text.flatMap escapeChar ++ '"' :: rest) = .ok (text, rest) := by
  have hlength := length_le_length_escaped text
  rw [Json.readString, readStringFrom_escaped text (by simp only [List.length_append]; omega),
    List.reverse_nil, List.nil_append]

theorem quote_append (text rest : Text) :
    quote text ++ rest = '"' :: (text.flatMap escapeChar ++ '"' :: rest) := by
  simp [quote]

theorem skipSpaces_quote (text rest : Text) :
    Json.skipSpaces (quote text ++ rest) = quote text ++ rest := by
  rw [quote_append]
  exact List.dropWhile_cons_of_neg (by decide)

/-- A quoted text is read as a string. -/
theorem readValue_quote (depth : ℕ) (text rest : Text) :
    Json.readValue depth (quote text ++ rest) = .ok (.string text, rest) := by
  rw [quote_append, Json.readValue, Json.fuelFor]
  simp only [Json.readValueFrom, if_true, readString_escaped]
  rfl

/-- A quoted name is read up to the value behind its colon. -/
theorem readName_quote (name text rest : Text) :
    Json.readName (quote name ++ ':' :: (quote text ++ rest)) = .ok (name, quote text ++ rest) := by
  rw [quote_append, Json.readName, readString_escaped]
  simp only [bind, Except.bind]
  rw [Json.skipSpaces, List.dropWhile_cons_of_neg (by decide)]
  simp only [Json.readWord, if_true, skipSpaces_quote]

theorem readKind_quote (kind : Kind) (rest : Text) :
    readKind (quote kind.name ++ rest) = .ok (kind, rest) := by
  have hvalue := readValue_quote innerDepth kind.name rest
  have hname : Kind.ofName? kind.name = some kind := by cases kind <;> rfl
  rw [quote_append] at hvalue ⊢
  simp only [readKind, hvalue, bind, Except.bind, hname]
  rfl

/-- The first member is read as the kind of the message. -/
theorem readMembers_type (fuel : ℕ) (kind : Kind) (rest : Text) :
    readMembers (fuel + 1) {} (quote "type".toList ++ ':' :: (quote kind.name ++ rest)) =
      match Json.readAfter '\x7d' rest with
      | .error fault => .error fault
      | .ok (.last rest) => .ok ({ kind := some kind }, rest)
      | .ok (.next rest) => readMembers fuel { kind := some kind } rest := by
  rw [readMembers, readName_quote]
  simp only [bind, Except.bind, if_true, readKind_quote]
  rcases Json.readAfter '\x7d' rest with _ | _ | _ <;> rfl

/-- A member that is a string is kept with the others. -/
theorem readMembers_string (fuel : ℕ) (members : Members) {key : Text} (hkey : key ≠ "type".toList)
    (text rest : Text) :
    readMembers (fuel + 1) members (quote key ++ ':' :: (quote text ++ rest)) =
      let members := { members with others := members.others ++ [(key, .string text)] }
      match Json.readAfter '\x7d' rest with
      | .error fault => .error fault
      | .ok (.last rest) => .ok (members, rest)
      | .ok (.next rest) => readMembers fuel members rest := by
  rw [readMembers, readName_quote]
  simp only [bind, Except.bind, if_neg hkey, readValue_quote]
  rcases Json.readAfter '\x7d' rest with _ | _ | _ <;> rfl

theorem toJson_stdout (data : Text) : (stdout data).toJson =
    '\x7b' :: (quote "type".toList ++ ':' :: (quote Kind.stdout.name ++
      ',' :: (quote "data".toList ++ ':' :: (quote data ++ ['\x7d'])))) := rfl

theorem toJson_done : done.toJson =
    '\x7b' :: (quote "type".toList ++ ':' :: (quote Kind.done.name ++ ['\x7d'])) := rfl

/-- A message written as an object is read as what its members say. -/
theorem read_of_readMembers {name rest : Text} {members : Members} {message : Message}
    (hread : ∀ fuel, readMembers (fuel + 2) {} (quote name ++ rest) = .ok (members, []))
    (hmessage : members.message = .ok message) :
    read ('\x7b' :: (quote name ++ rest)) = .ok message := by
  have hobject : readObject (quote name ++ rest) = .ok (message, []) := by
    rw [readObject, skipSpaces_quote]
    split
    · next h =>
      rw [quote_append, List.cons.injEq] at h
      exact absurd h.1 (by decide)
    · have hfuel := hread (name.flatMap escapeChar ++ '"' :: rest).length
      rw [quote_append] at hfuel ⊢
      simp only [List.length_cons, bind, Except.bind, hfuel, hmessage]
  have hspaces : Json.skipSpaces ('\x7b' :: (quote name ++ rest)) =
      '\x7b' :: (quote name ++ rest) := List.dropWhile_cons_of_neg (by decide)
  simp only [read, hspaces, bind, Except.bind, hobject]
  rfl

/-- The members that a line of output is written with are its kind and its data. -/
theorem readMembers_stdout (fuel : ℕ) (data : Text) :
    readMembers (fuel + 2) {} (quote "type".toList ++ ':' :: (quote Kind.stdout.name ++
      ',' :: (quote "data".toList ++ ':' :: (quote data ++ ['\x7d'])))) =
      .ok (⟨some .stdout, [("data".toList, .string data)]⟩, []) := by
  have hnext (text : Text) : Json.readAfter '\x7d' (',' :: (quote "data".toList ++ text)) =
      .ok (.next (quote "data".toList ++ text)) := by
    conv_rhs => rw [← skipSpaces_quote]
    rfl
  simp only [readMembers_type, hnext]
  rw [readMembers_string fuel _ (by decide)]
  rfl

theorem readMembers_done (fuel : ℕ) :
    readMembers (fuel + 2) {} (quote "type".toList ++ ':' :: (quote Kind.done.name ++ ['\x7d'])) =
      .ok (⟨some .done, []⟩, []) := by
  rw [readMembers_type]
  rfl

/-- A message is read back from its written form. -/
theorem read_toJson (message : Message) : read message.toJson = .ok message := by
  cases message with
  | stdout data =>
    rw [toJson_stdout]
    exact read_of_readMembers (fun fuel => readMembers_stdout fuel data) rfl
  | done =>
    rw [toJson_done]
    exact read_of_readMembers readMembers_done rfl

end BenchRelay.Message
