import BenchRelay.Proofs.LossyReading
import BenchRelay.Text.Decoder

/-!
# Decoding in pieces is reading at once

What a decoder returns between two flushes is the lossy reading of the bytes that it was given
there, however they were cut. The carry is the only state: resolving a stream in two parts, the
second behind the carry of the first, is resolving the whole stream. So a cut within a sequence
never shows, whether the sequence turns out well-formed, ill-formed or cut short for good.
-/

namespace BenchRelay

namespace Utf8

/-- More bytes do not mend an ill-formed sequence. -/
theorem continued_append_of_illFormed {bits : ℕ} {expected : List ByteRange} {b rest : Bytes}
    (h : continued bits expected b = .illFormed rest) (more : Bytes) :
    continued bits expected (b ++ more) = .illFormed (rest ++ more) := by
  induction expected generalizing bits b with
  | nil => simp [continued] at h
  | cons range expected ih =>
    cases b with
    | nil => simp [continued] at h
    | cons x b =>
      simp only [continued, List.cons_append] at h ⊢
      split at h
      · next hx => rw [if_pos hx, ih h]
      · next hx =>
        simp only [Front.illFormed.injEq] at h
        rw [if_neg hx, ← h, List.cons_append]

theorem front_append_of_illFormed {x : UInt8} {b rest : Bytes} (h : front x b = .illFormed rest)
    (more : Bytes) : front x (b ++ more) = .illFormed (rest ++ more) := by
  unfold front at h ⊢
  split at h
  · simp only [Front.illFormed.injEq] at h ⊢
    rw [h]
  · exact continued_append_of_illFormed h more

theorem front_append_of_character {x : UInt8} {b rest : Bytes} {c : Char}
    (h : front x b = .character c rest) (more : Bytes) :
    front x (b ++ more) = .character c (rest ++ more) := by
  obtain ⟨y, s, hs⟩ := List.exists_cons_of_ne_nil (String.utf8EncodeChar_ne_nil (c := c))
  have hencode := encode_of_front h
  rw [hs, List.cons_append, List.cons.injEq] at hencode
  obtain ⟨rfl, rfl⟩ := hencode
  rw [List.append_assoc, front_of_encode hs]

theorem charactersFrom_cons (seen : Text) (x : UInt8) (b : Bytes) :
    charactersFrom seen (x :: b) = match front x b with
      | .character c rest => charactersFrom (c :: seen) rest
      | _ => (seen.reverse, x :: b) := by
  rw [charactersFrom]
  split <;> simp_all

/-- The characters already seen stand in front of the others. -/
theorem charactersFrom_eq (seen : Text) (b : Bytes) :
    charactersFrom seen b = (seen.reverse ++ (characters b).1, (characters b).2) := by
  unfold characters
  induction b using lossy.induct generalizing seen with
  | case1 => simp [charactersFrom]
  | case2 x b c rest h ih => simp [charactersFrom_cons, h, ih (c :: seen), ih [c]]
  | case3 x b rest h | case4 x b h => simp [charactersFrom_cons, h]

theorem characters_of_front_character {x : UInt8} {b rest : Bytes} {c : Char}
    (h : front x b = .character c rest) :
    characters (x :: b) = (c :: (characters rest).1, (characters rest).2) := by
  rw [characters, charactersFrom_cons, h]
  exact charactersFrom_eq [c] rest

theorem characters_of_front_illFormed {x : UInt8} {b rest : Bytes}
    (h : front x b = .illFormed rest) : characters (x :: b) = ([], x :: b) := by
  rw [characters, charactersFrom_cons, h]
  rfl

theorem characters_of_front_cutShort {x : UInt8} {b : Bytes} (h : front x b = .cutShort) :
    characters (x :: b) = ([], x :: b) := by
  rw [characters, charactersFrom_cons, h]
  rfl

end Utf8

namespace Decoder

open Utf8

/-- Resolving without what is needed to see that it ends. -/
theorem resolve_eq (b : Bytes) : resolve b = match characters b with
    | (text, []) => (text, [])
    | (text, x :: rest) => match front x rest with
      | .illFormed rest' => (text ++ replacement :: (resolve rest').1, (resolve rest').2)
      | _ => (text, x :: rest) := by
  rw [resolve]
  split
  · next h => rw [h]
  · next x rest h =>
    rw [h]
    split
    · next h' => simp only [h']
    · next h' =>
      dsimp only
      split
      · next rest' hill => exact absurd hill (h' rest')
      · rfl

@[simp] theorem resolve_nil : resolve [] = ([], []) := by
  simp [resolve_eq, characters, charactersFrom]

theorem resolve_of_front_character {x : UInt8} {b rest : Bytes} {c : Char}
    (h : front x b = .character c rest) :
    resolve (x :: b) = (c :: (resolve rest).1, (resolve rest).2) := by
  rw [resolve_eq (x :: b), resolve_eq rest, characters_of_front_character h]
  rcases characters rest with ⟨text, _ | ⟨y, later⟩⟩
  · rfl
  · cases hfront : front y later <;> simp [hfront]

theorem resolve_of_front_illFormed {x : UInt8} {b rest : Bytes}
    (h : front x b = .illFormed rest) :
    resolve (x :: b) = (replacement :: (resolve rest).1, (resolve rest).2) := by
  rw [resolve_eq, characters_of_front_illFormed h]
  simp only [h, List.nil_append]

theorem resolve_of_front_cutShort {x : UInt8} {b : Bytes} (h : front x b = .cutShort) :
    resolve (x :: b) = ([], x :: b) := by
  rw [resolve_eq, characters_of_front_cutShort h]
  simp only [h]

/-- Resolving a stream in two parts, the second behind the carry of the first, is resolving it
whole. -/
theorem resolve_append (b more : Bytes) :
    resolve (b ++ more) = ((resolve b).1 ++ (resolve ((resolve b).2 ++ more)).1,
      (resolve ((resolve b).2 ++ more)).2) := by
  -- More bytes change nothing but a sequence that is cut short, and that one is the carry.
  induction b using lossy.induct with
  | case1 => simp
  | case2 x b c rest h ih =>
    rw [List.cons_append, resolve_of_front_character (front_append_of_character h more), ih,
      resolve_of_front_character h, List.cons_append]
  | case3 x b rest h ih =>
    rw [List.cons_append, resolve_of_front_illFormed (front_append_of_illFormed h more), ih,
      resolve_of_front_illFormed h, List.cons_append]
  | case4 x b h => rw [resolve_of_front_cutShort h, List.nil_append]

/-- What is resolved and the reading of the carry make up the reading of the whole. -/
theorem resolve_lossy (b : Bytes) : (resolve b).1 ++ lossy (resolve b).2 = lossy b := by
  induction b using lossy.induct with
  | case1 => simp
  | case2 x b c rest h ih =>
    rw [resolve_of_front_character h, lossy_of_front_character h, List.cons_append, ih]
  | case3 x b rest h ih =>
    rw [resolve_of_front_illFormed h, lossy_of_front_illFormed h, List.cons_append, ih]
  | case4 x b h => rw [resolve_of_front_cutShort h, List.nil_append]

/-- A carry cannot be resolved any further. -/
theorem resolve_carry (b : Bytes) : resolve (resolve b).2 = ([], (resolve b).2) := by
  induction b using lossy.induct with
  | case1 => simp
  | case2 x b c rest h ih => rw [resolve_of_front_character h, ih]
  | case3 x b rest h ih => rw [resolve_of_front_illFormed h, ih]
  | case4 x b h => rw [resolve_of_front_cutShort h, resolve_of_front_cutShort h]

/-- Encoded text is resolved to its end. -/
theorem resolve_utf8 (text : Text) : resolve text.utf8 = (text, []) := by
  induction text with
  | nil => simp
  | cons c text ih =>
    obtain ⟨x, s, hs⟩ := List.exists_cons_of_ne_nil (String.utf8EncodeChar_ne_nil (c := c))
    rw [Text.utf8_cons, hs, List.cons_append, resolve_of_front_character (front_of_encode hs _), ih]

/-- One use of a decoder. -/
inductive Call where
  /-- Read one more piece. -/
  | feed (piece : Bytes)
  /-- Read what is held back, and start afresh. -/
  | flush
  deriving Repr, DecidableEq

/-- Use a decoder once. -/
def call (decoder : Decoder) : Call → Text × Decoder
  | .feed piece => decoder.feed piece
  | .flush => decoder.flush

/-- Use a decoder several times: the texts that it returns, and the decoder afterwards. -/
def calls (decoder : Decoder) : List Call → List Text × Decoder
  | [] => ([], decoder)
  | first :: rest =>
    let (text, decoder) := decoder.call first
    let (texts, decoder) := decoder.calls rest
    (text :: texts, decoder)

/-- Whether a decoder is fresh behind some calls: there are none, or the last one flushed it. -/
def EndsFresh (earlier : List Call) : Prop := earlier = [] ∨ earlier.getLast? = some .flush

/-- A decoder holds back nothing that can already be read. -/
def Settled (decoder : Decoder) : Prop := resolve decoder.carry = ([], decoder.carry)

theorem settled_fresh : Settled {} := resolve_nil

theorem settled_feed (decoder : Decoder) (piece : Bytes) : (decoder.feed piece).2.Settled :=
  resolve_carry _

/-- What is held back is nothing, or reads as a single U+FFFD. -/
theorem lossy_carry {decoder : Decoder} (h : decoder.Settled) :
    decoder.carry = [] ∨ lossy decoder.carry = [replacement] := by
  obtain ⟨_ | ⟨x, b⟩⟩ := decoder
  · exact .inl rfl
  · rw [Settled] at h
    cases hfront : front x b with
    | character c rest => simp [resolve_of_front_character hfront] at h
    | illFormed rest => simp [resolve_of_front_illFormed hfront] at h
    | cutShort => exact .inr (lossy_of_front_cutShort hfront)

theorem calls_append (decoder : Decoder) (first later : List Call) :
    decoder.calls (first ++ later) =
      ((decoder.calls first).1 ++ ((decoder.calls first).2.calls later).1,
        ((decoder.calls first).2.calls later).2) := by
  induction first generalizing decoder with
  | nil => rfl
  | cons _ first ih => simp only [List.cons_append, calls, ih]

/-- Pieces fed one after another are resolved together, behind the carry. -/
theorem calls_feed {decoder : Decoder} (h : decoder.Settled) (pieces : List Bytes) :
    (decoder.calls (pieces.map .feed)).1.flatten = (resolve (decoder.carry ++ pieces.flatten)).1 ∧
      (decoder.calls (pieces.map .feed)).2.carry =
        (resolve (decoder.carry ++ pieces.flatten)).2 := by
  induction pieces generalizing decoder with
  | nil =>
    rw [Settled] at h
    simp [calls, h]
  | cons piece pieces ih =>
    obtain ⟨htexts, hcarry⟩ := ih (settled_feed decoder piece)
    have hwhole := resolve_append (decoder.carry ++ piece) pieces.flatten
    simp only [List.map_cons, calls, call, List.flatten_cons, htexts, hcarry]
    rw [← List.append_assoc, hwhole]
    exact ⟨rfl, rfl⟩

/-- The texts of fed pieces and of the flush behind them are the reading of the pieces. -/
theorem calls_feed_flush {decoder : Decoder} (h : decoder.Settled) (pieces : List Bytes) :
    (decoder.calls (pieces.map .feed ++ [.flush])).1.flatten =
      Utf8.lossy (decoder.carry ++ pieces.flatten) := by
  obtain ⟨htexts, hcarry⟩ := calls_feed h pieces
  rw [calls_append, List.flatten_append, htexts, ← resolve_lossy, ← hcarry]
  simp [calls, call, flush]

/-- Calls that end with a flush, or no calls at all, leave a fresh decoder. -/
theorem calls_of_endsFresh {earlier : List Call} (h : EndsFresh earlier) :
    (calls {} earlier).2 = {} := by
  rcases h with rfl | hlast
  · rfl
  · obtain ⟨first, rfl⟩ := List.getLast?_eq_some_iff.mp hlast
    rw [calls_append]
    rfl

/-- What a decoder returns from one flush to the next is the one lossy reading of the bytes that it
was given between them, in whatever pieces. Encoded text comes back as it was, with nothing held
back and nothing left to flush. -/
theorem calls_between_flushes (earlier : List Call) (h : EndsFresh earlier) (pieces : List Bytes) :
    let decoder := (calls {} earlier).2
    let fed := decoder.calls (pieces.map .feed)
    (∀ text, Utf8.Reads pieces.flatten text ↔
      text = (decoder.calls (pieces.map .feed ++ [.flush])).1.flatten) ∧
    ∀ text : Text, pieces.flatten = text.utf8 →
      fed.1.flatten = text ∧ fed.2.holdsBytes = false ∧ fed.2.flush.1 = [] := by
  intro decoder fed
  have hfresh : decoder = {} := calls_of_endsFresh h
  have hsettled : decoder.Settled := hfresh ▸ settled_fresh
  have hcarry : decoder.carry = [] := congrArg carry hfresh
  constructor
  · intro text
    rw [Utf8.reads_iff, calls_feed_flush hsettled, hcarry, List.nil_append]
  · intro text htext
    obtain ⟨htexts, hrest⟩ := calls_feed hsettled pieces
    rw [hcarry, List.nil_append, htext, resolve_utf8] at htexts hrest
    refine ⟨htexts, ?_, ?_⟩
    · simp only [holdsBytes, fed, hrest]
      rfl
    · simp only [flush, fed, hrest, Utf8.lossy_nil]

/-- Behind a sequence that a flush cut short, another one cut between pieces, a byte that is none,
and a third cut short; or one character cut in two. -/
theorem calls_between_flushes_cut_sequences :
    EndsFresh [.feed [0x61, 0xE2], .flush] ∧
      Utf8.Reads [0xCE, 0xBC, 0xFF, 0xE2, 0x86] ['μ', Utf8.replacement, Utf8.replacement] ∧
      ((calls {} [.feed [0x61, 0xE2], .flush]).2.calls [.feed [0xCE], .feed [0xBC]]).1.flatten =
        ['μ'] := by
  have hfresh : EndsFresh [.feed [0x61, 0xE2], .flush] := .inr rfl
  refine ⟨hfresh, ?_, ?_⟩
  · have hread := (calls_between_flushes _ hfresh [[0xCE], [], [0xBC, 0xFF, 0xE2], [0x86]]).1
    exact (hread _).mpr (by decide +kernel)
  · exact ((calls_between_flushes _ hfresh [[0xCE], [0xBC]]).2 ['μ'] (by decide)).1

end Decoder

end BenchRelay
