import BenchRelay.Proofs.DecoderCalls
import BenchRelay.Proofs.MessageReading
import BenchRelay.Proofs.Posting

/-!
# Messages as lines

The written form of a message holds no character below U+0020, and only such a character has a byte
below 0x20 in its UTF-8 form. So the newline byte behind a message is the only one of its line, and
cutting a stream of lines at newline bytes gives the written messages, each of which is read back.
-/

namespace BenchRelay

namespace Utf8

/-- The bytes of a character are not below its code, or at least 0x80. -/
theorem le_toNat_of_mem_encode {c : Char} {b : UInt8} {low : ℕ} (hlow : low ≤ 0x80)
    (hc : low ≤ c.toNat) (hb : b ∈ String.utf8EncodeChar c) : low ≤ b.toNat := by
  change low ≤ c.val.toNat at hc
  simp only [String.utf8EncodeChar] at hb
  generalize c.val.toNat = n at hc hb
  split_ifs at hb <;> simp only [List.mem_cons, List.not_mem_nil, or_false] at hb
  · subst hb
    simp
    omega
  · rcases hb with rfl | rfl <;> simp <;> omega
  · rcases hb with rfl | rfl | rfl <;> simp <;> omega
  · rcases hb with rfl | rfl | rfl | rfl <;> simp <;> omega

theorem characters_utf8 (text : Text) : characters (Text.utf8 text) = (text, []) := by
  induction text with
  | nil => simp [characters, charactersFrom]
  | cons c text ih =>
    obtain ⟨x, s, hs⟩ := List.exists_cons_of_ne_nil (String.utf8EncodeChar_ne_nil (c := c))
    rw [Text.utf8_cons, hs, List.cons_append,
      characters_of_front_character (front_of_encode hs (Text.utf8 text)), ih]

/-- Encoded text is well-formed throughout. -/
theorem decode?_utf8 (text : Text) : decode? (Text.utf8 text) = some text := by
  rw [decode?, characters_utf8]

end Utf8

namespace Message

/-- The message that the bytes of a line say. -/
def ofLine? (line : Bytes) : Option Message :=
  (Utf8.decode? line).bind fun text => (read text).toOption

/-- The bytes of a message without the newline behind it. -/
def body (message : Message) : Bytes := message.toJson.utf8

theorem ofLine?_body (message : Message) : ofLine? message.body = some message := by
  rw [ofLine?, body, Utf8.decode?_utf8, Option.bind_some, read_toJson]
  rfl

/-- No two messages are written alike. -/
theorem body_injective : Function.Injective body := by
  intro message other h
  have hread := congrArg ofLine? h
  rwa [ofLine?_body, ofLine?_body, Option.some.injEq] at hread

theorem le_toNat_of_mem_escapeChar {c d : Char} (h : d ∈ escapeChar c) : 0x20 ≤ d.toNat := by
  have hdigit : ∀ n < 16, 0x20 ≤ (hexDigit n).toNat := by decide
  unfold escapeChar at h
  split at h
  iterate 7
    simp only [List.mem_cons, List.not_mem_nil, or_false] at h
    rcases h with rfl | rfl <;> decide
  split at h
  · next hcontrol =>
    simp only [List.mem_cons, List.not_mem_nil, or_false] at h
    rcases h with rfl | rfl | rfl | rfl | rfl | rfl
    iterate 4 decide
    · exact hdigit _ (by omega)
    · exact hdigit _ (by omega)
  · next hcontrol =>
    rw [List.mem_singleton.mp h]
    omega

theorem le_toNat_of_mem_quote {text : Text} {c : Char} (h : c ∈ quote text) : 0x20 ≤ c.toNat := by
  simp only [quote, List.cons_append, List.mem_cons, List.mem_append, List.mem_flatMap,
    List.not_mem_nil, or_false] at h
  rcases h with rfl | ⟨d, -, hc⟩ | rfl
  · decide
  · exact le_toNat_of_mem_escapeChar hc
  · decide

/-- No control character is left in a written message. -/
theorem le_toNat_of_mem_toJson {message : Message} {c : Char} (h : c ∈ message.toJson) :
    0x20 ≤ c.toNat := by
  cases message with
  | stdout data =>
    simp only [toJson_stdout, List.mem_cons, List.mem_append, List.not_mem_nil, or_false] at h
    rcases h with rfl | h | rfl | h | rfl | h | rfl | h | rfl
    iterate 4
      · decide
      · exact le_toNat_of_mem_quote h
    · decide
  | done =>
    simp only [toJson_done, List.mem_cons, List.mem_append, List.not_mem_nil, or_false] at h
    rcases h with rfl | h | rfl | h | rfl
    iterate 2
      · decide
      · exact le_toNat_of_mem_quote h
    · decide

theorem le_toNat_of_mem_body {message : Message} {b : UInt8} (h : b ∈ message.body) :
    0x20 ≤ b.toNat := by
  obtain ⟨c, hc, hb⟩ := List.mem_flatMap.mp h
  exact Utf8.le_toNat_of_mem_encode (by decide) (le_toNat_of_mem_toJson hc) hb

theorem body_ne_nil (message : Message) : message.body ≠ [] := by
  cases message <;> simp [body, toJson_stdout, toJson_done, String.utf8EncodeChar_ne_nil]

/-- The body of a message is a line. -/
theorem newline_not_mem_body (message : Message) : newline ∉ message.body := by
  intro h
  exact absurd (le_toNat_of_mem_body h) (by decide)

/-- A stream of lines, and what stands behind the last of them, is cut to the written messages. -/
theorem split_lines (messages : List Message) {rest : Bytes} (h : newline ∉ rest) :
    Lines.split newline (messages.flatMap line ++ rest) = ⟨messages.map body, rest⟩ := by
  rw [Lines.split_eq_iff]
  refine ⟨⟨?_, h⟩, ?_⟩
  · intro bytes hbytes
    obtain ⟨message, -, rfl⟩ := List.mem_map.mp hbytes
    exact newline_not_mem_body message
  · rw [Lines.unsplit, List.flatMap_map]
    rfl

theorem mapM_ofLine?_body (messages : List Message) :
    (messages.map body).mapM ofLine? = some messages := by
  induction messages with
  | nil => rfl
  | cons message messages ih =>
    rw [List.map_cons, List.mapM_cons, ofLine?_body, ih]
    rfl

theorem utf8_lines (messages : List Message) :
    Text.utf8 (messages.flatMap fun message => message.toJson ++ ['\n']) =
      messages.flatMap line := by
  induction messages with
  | nil => rfl
  | cons message messages ih =>
    rw [List.flatMap_cons, List.flatMap_cons, Text.utf8_append, Text.utf8_append, ih]
    rfl

theorem count_newline_lines (messages : List Message) :
    (messages.flatMap line).count newline = messages.length := by
  induction messages with
  | nil => rfl
  | cons message messages ih =>
    have hbody := List.count_eq_zero.mpr (newline_not_mem_body message)
    rw [List.flatMap_cons, List.count_append, ih, line, List.count_append, ← body, hbody,
      List.length_cons, Nat.add_comm, List.count_singleton_self, Nat.zero_add]

/-- No byte of a stream of lines is below 0x20 but the newlines. -/
theorem eq_newline_of_mem_lines {messages : List Message} {b : UInt8}
    (h : b ∈ messages.flatMap line) (hb : b.toNat < 0x20) : b = newline := by
  obtain ⟨message, -, hline⟩ := List.mem_flatMap.mp h
  rw [line, List.mem_append, List.mem_singleton] at hline
  rcases hline with hbody | hb'
  · exact absurd (le_toNat_of_mem_body hbody) (by omega)
  · exact hb'

/-- Messages written as lines are found again: no two streams of lines are the same. -/
theorem lines_injective :
    Function.Injective fun messages : List Message => messages.flatMap line := by
  intro messages others h
  have hsplit := congrArg (Lines.split newline) h
  have hmessages := split_lines messages List.not_mem_nil
  have hothers := split_lines others List.not_mem_nil
  rw [List.append_nil] at hmessages hothers
  simp only [hmessages, hothers, Lines.mk.injEq, and_true] at hsplit
  exact List.map_injective_iff.mpr body_injective hsplit

end Message

namespace Writer

/-- Messages posted to a fresh writer that never fails make a stream of well-formed text with one
newline for each message, at the end of its line, and no other control character. Cutting the stream
at its newlines and reading every line gives the messages, so no others make the same stream. -/
theorem lines_of_postAll {writer : Writer} (h : writer.Unlimited) (hfresh : writer.written = [])
    (messages : List Message) :
    ∃ later, Sink.postAll writer messages = (.ok (), later) ∧
      Utf8.decode? later.written =
        some (messages.flatMap fun message => message.toJson ++ ['\n']) ∧
      Lines.split Message.newline later.written = ⟨messages.map Message.body, []⟩ ∧
      later.written.count Message.newline = messages.length ∧
      (∀ b ∈ later.written, b.toNat < 0x20 → b = Message.newline) ∧
      (Lines.split Message.newline later.written).complete.mapM Message.ofLine? = some messages ∧
      ∀ others, (Sink.postAll writer others).2.written = later.written → others = messages := by
  obtain ⟨later, hposted, -, hwritten⟩ := postAll_of_unlimited h messages
  rw [hfresh, List.nil_append] at hwritten
  have hsplit := Message.split_lines messages List.not_mem_nil
  rw [List.append_nil, ← hwritten] at hsplit
  refine ⟨later, hposted, ?_, hsplit, ?_, ?_, ?_, ?_⟩
  · rw [hwritten, ← Message.utf8_lines, Utf8.decode?_utf8]
  · rw [hwritten, Message.count_newline_lines]
  · intro b hb hcontrol
    rw [hwritten] at hb
    exact Message.eq_newline_of_mem_lines hb hcontrol
  · rw [hsplit, Message.mapM_ofLine?_body]
  · intro others hothers
    obtain ⟨other, hother, -, hbytes⟩ := postAll_of_unlimited h others
    rw [hother, hwritten, hbytes, hfresh, List.nil_append] at hothers
    exact Message.lines_injective hothers

/-- A line with every kind of character, and the shortest lines of both kinds. -/
theorem lines_of_postAll_every_escape :
    let data : Text := ['"', '\\', '\n', '\x00', '\x1f', '\x7f', '\u2028', '😀']
    let messages : List Message := [.stdout data, .done, .stdout []]
    let written := (Sink.postAll ({} : Writer) messages).2.written
    ({} : Writer).Unlimited ∧ ({} : Writer).written = [] ∧ written.count Message.newline = 3 ∧
      (Lines.split Message.newline written).complete.mapM Message.ofLine? = some messages := by
  intro data messages written
  obtain ⟨later, hposted, -, -, hcount, -, hread, -⟩ :=
    lines_of_postAll unlimited_fresh rfl messages
  have hwritten : written = later.written := by simp only [written, hposted]
  rw [hwritten]
  exact ⟨unlimited_fresh, rfl, hcount, hread⟩

end Writer

end BenchRelay
