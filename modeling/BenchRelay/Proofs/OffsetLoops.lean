import BenchRelay.Proofs.CheckedBytes
import BenchRelay.Proofs.Posting
import BenchRelay.Proofs.TextOffsets
import BenchRelay.Proofs.Turns

/-!
# Loops over offsets

A relay can walk through a text by offsets: it finds the next newline behind the index where it
stands, posts the slice up to there, and goes on behind the newline. A decoder can go through its
bytes with a cursor: it checks them from the cursor on, and goes on behind each fault. Both loops
end, both come out as the relay and the decoder do, and no slice that they take is out of range or
cuts a character.
-/

namespace BenchRelay

namespace Relay

/-- How far a relay has walked through a text: the offset behind the last newline, and the relay. -/
structure Walk (σ : Type) where
  index : ℕ
  relay : Relay σ

variable {σ : Type} [Sink σ]

/-- One turn of the walk. There is no result where a slice would cut a character. -/
def turn (text : Text) (walk : Walk σ) : Turn (Walk σ) (Option (Except SinkError Unit × Relay σ)) :=
  match text.dropBytes? walk.index with
  | none => .leave none
  | some behind =>
    match behind.offsetOf? '\n' with
    | none => .leave (some (.ok (), ⟨walk.relay.sink, walk.relay.pending ++ behind⟩))
    | some offset =>
      let next := walk.index + offset
      match text.slice? walk.index next with
      | none => .leave none
      | some part =>
        match Sink.post walk.relay.sink (.stdout (walk.relay.pending ++ part)) with
        | (.ok (), sink) => .again ⟨next + 1, { sink }⟩
        | (.error error, sink) => .leave (some (.error error, { sink }))

/-- What holds before a turn: the index lies between characters, and if there is a newline behind
it, that and what follows it do too, so that no slice cuts a character. -/
structure Walk.InBounds (text : Text) (walk : Walk σ) : Prop where
  index_le : walk.index ≤ text.utf8.length
  boundary : text.IsBoundary walk.index
  behind : (text.dropBytes? walk.index).isSome
  found : ∀ behind offset, text.dropBytes? walk.index = some behind →
    behind.offsetOf? '\n' = some offset →
      let next := walk.index + offset
      walk.index ≤ next ∧ next < text.utf8.length ∧ text.IsBoundary next ∧
        text.IsBoundary (next + 1) ∧ ∃ line, text.slice? walk.index next = some line ∧
          line.utf8 = (text.utf8.take next).drop walk.index
  grows : ∀ later, turn text walk = .again later → walk.index < later.index

/-- Where a walk stands between characters, the rest of the text has no newline and becomes pending,
or its first line is posted. -/
theorem turn_cases (before behind : Text) (relay : Relay σ) :
    let walk : Walk σ := ⟨before.utf8.length, relay⟩
    ('\n' ∉ behind ∧ turn (before ++ behind) walk =
      .leave (some (.ok (), ⟨relay.sink, relay.pending ++ behind⟩))) ∨
    ∃ line rest, behind = line ++ '\n' :: rest ∧ '\n' ∉ line ∧
      turn (before ++ behind) walk =
        match Sink.post relay.sink (.stdout (relay.pending ++ line)) with
        | (.ok (), sink) => .again ⟨before.utf8.length + line.utf8.length + 1, { sink }⟩
        | (.error error, sink) => .leave (some (.error error, { sink })) := by
  intro walk
  have hdrop : (before ++ behind).dropBytes? walk.index = some behind :=
    Text.dropBytes?_eq_some_iff.mpr ⟨before, rfl, rfl⟩
  simp only [turn, hdrop]
  cases hfind : behind.offsetOf? '\n' with
  | none => exact .inl ⟨Text.offsetOf?_eq_none_iff.mp hfind, rfl⟩
  | some offset =>
    obtain ⟨line, rest, rfl, hline, rfl⟩ := Text.offsetOf?_eq_some_iff.mp hfind
    have hslice : (before ++ (line ++ '\n' :: rest)).slice? walk.index
        (walk.index + line.utf8.length) = some line := by
      refine Text.slice?_eq_some_iff.mpr ⟨before, '\n' :: rest, by simp, rfl, ?_⟩
      rw [Text.utf8_append, List.length_append]
    refine .inr ⟨line, rest, rfl, hline, ?_⟩
    simp only [hslice]
    rfl

/-- Whether a walk still comes out as the whole text written to a relay: what it leaves to do is to
write what stands behind its index. -/
def Walk.Follows (text : Text) (relay : Relay σ) (walk : Walk σ) : Prop :=
  ∃ before behind, text = before ++ behind ∧ before.utf8.length = walk.index ∧
    walk.relay.write behind = relay.write text

theorem Walk.Follows.inBounds {text : Text} {relay : Relay σ} {walk : Walk σ}
    (h : walk.Follows text relay) : walk.InBounds text := by
  obtain ⟨index, current⟩ := walk
  obtain ⟨before, behind, rfl, rfl, -⟩ := h
  have hboundary : (before ++ behind).IsBoundary before.utf8.length :=
    Text.isBoundary_iff.mpr ⟨before, behind, rfl, rfl⟩
  refine ⟨hboundary.le, hboundary, Text.isSome_dropBytes?_iff.mpr hboundary, ?_, ?_⟩
  · intro rest offset hrest hfind
    rw [Text.dropBytes?_eq_some_iff.mpr ⟨before, rfl, rfl⟩, Option.some.injEq] at hrest
    subst hrest
    obtain ⟨line, rest, rfl, -, rfl⟩ := Text.offsetOf?_eq_some_iff.mp hfind
    have hnext : (before ++ (line ++ '\n' :: rest)).IsBoundary
        (before.utf8.length + line.utf8.length) :=
      Text.isBoundary_iff.mpr ⟨before ++ line, '\n' :: rest, by simp, by simp⟩
    have hlater : (before ++ (line ++ '\n' :: rest)).IsBoundary
        (before.utf8.length + line.utf8.length + 1) :=
      Text.isBoundary_iff.mpr ⟨before ++ line ++ ['\n'], rest, by simp,
        by simp only [Text.utf8_append, List.length_append]; rfl⟩
    have hslice := Text.isSome_slice?_iff.mpr ⟨Nat.le_add_right _ _, hboundary, hnext⟩
    obtain ⟨part, hpart⟩ := Option.isSome_iff_exists.mp hslice
    exact ⟨Nat.le_add_right _ _, hlater.le, hnext, hlater, part, hpart, Text.utf8_of_slice? hpart⟩
  · intro later hturn
    obtain ⟨-, hleave⟩ | ⟨line, rest, -, -, hpost⟩ := turn_cases before behind current
    · simp [hleave] at hturn
    · rw [hpost] at hturn
      split at hturn
      · obtain rfl := (Turn.again.inj hturn).symm
        dsimp only
        omega
      · simp at hturn

/-- A turn that is not the last posts a line, and the walk goes on to come out as before. -/
theorem Walk.Follows.again {text : Text} {relay : Relay σ} {walk next : Walk σ}
    (h : walk.Follows text relay) (hturn : turn text walk = .again next) :
    next.Follows text relay := by
  obtain ⟨index, current⟩ := walk
  obtain ⟨before, behind, rfl, rfl, hwrite⟩ := h
  obtain ⟨-, hleave⟩ | ⟨line, rest, rfl, hline, hpost⟩ := turn_cases before behind current
  · simp [hleave] at hturn
  · replace hwrite := (write_line current hline rest).symm.trans hwrite
    cases hsink : Sink.post current.sink (.stdout (current.pending ++ line)) with
    | mk outcome sink =>
      rw [hsink] at hpost hwrite
      cases outcome with
      | ok =>
        obtain rfl := Turn.again.inj (hpost.symm.trans hturn)
        refine ⟨before ++ line ++ ['\n'], rest, by simp, ?_, hwrite⟩
        simp only [Text.utf8_append, List.length_append]
        rfl
      | error error => simp [hpost] at hturn

/-- The last turn ends as the write does. -/
theorem Walk.Follows.leave {text : Text} {relay : Relay σ} {walk : Walk σ}
    {result : Option (Except SinkError Unit × Relay σ)} (h : walk.Follows text relay)
    (hturn : turn text walk = .leave result) : result = some (relay.write text) := by
  obtain ⟨index, current⟩ := walk
  obtain ⟨before, behind, rfl, rfl, hwrite⟩ := h
  rw [← hwrite]
  obtain ⟨hbehind, hleave⟩ | ⟨line, rest, rfl, hline, hpost⟩ := turn_cases before behind current
  · rw [write_of_newline_not_mem current hbehind]
    exact (Turn.leave.inj (hleave.symm.trans hturn)).symm
  · have hline' := write_line current hline rest
    cases hsink : Sink.post current.sink (.stdout (current.pending ++ line)) with
    | mk outcome sink =>
      rw [hsink] at hpost hline'
      cases outcome with
      | ok => simp [hpost] at hturn
      | error error =>
        rw [hline']
        exact (Turn.leave.inj (hpost.symm.trans hturn)).symm

theorem advances_turn (text : Text) (relay : Relay σ) :
    Turn.Advances (turn text) (Walk.Follows text relay) Walk.index text.utf8.length
      (· = some (relay.write text)) where
  keeps _ _ h hturn := h.again hturn
  grows _ next h hturn := h.inBounds.grows next hturn
  within _ h := h.inBounds.index_le
  leaves _ _ h hturn := h.leave hturn

theorem follows_start (text : Text) (relay : Relay σ) : Walk.Follows text relay ⟨0, relay⟩ :=
  ⟨[], text, rfl, rfl, rfl⟩

end Relay

namespace Bytes

/-- The bytes between two offsets, unless these are out of range or in the wrong order. -/
def slice? (b : Bytes) (start stop : ℕ) : Option Bytes :=
  if start ≤ stop ∧ stop ≤ b.length then some ((b.take stop).drop start) else none

theorem slice?_append (before part behind : Bytes) :
    slice? (before ++ (part ++ behind)) before.length (before.length + part.length) =
      some part := by
  rw [slice?, if_pos (by simp), ← List.append_assoc, ← List.length_append, List.take_left,
    List.drop_left]

theorem slice?_end (before behind : Bytes) :
    slice? (before ++ behind) before.length (before ++ behind).length = some behind := by
  rw [slice?, if_pos (by simp), List.take_length, List.drop_left]

end Bytes

namespace Decoder

open Utf8

/-- How far a decoder has come through its bytes: the offset up to which they are read, and the text
read from them. -/
structure Scan where
  cursor : ℕ
  text : Text
  deriving Repr, DecidableEq

/-- One turn of the scan. There is no result where a slice would be out of range. -/
def turn (b : Bytes) (scan : Scan) : Turn Scan (Option Scan) :=
  if scan.cursor < b.length then
    match Bytes.slice? b scan.cursor b.length with
    | none => .leave none
    | some behind =>
      match check behind with
      | .ok valid => .again ⟨b.length, scan.text ++ valid⟩
      | .error fault =>
        let validEnd := scan.cursor + fault.validUpTo
        match Bytes.slice? b scan.cursor validEnd with
        | none => .leave none
        | some valid =>
          let text := scan.text ++ lossy valid
          match fault.errorLength with
          | some invalid => .again ⟨validEnd + invalid, text ++ [replacement]⟩
          | none => .leave (some ⟨validEnd, text⟩)
  else .leave (some scan)

/-- What holds before a turn: the cursor is in range, and if there is a fault behind it, so are the
bytes in front of the fault, which read as what they are, and the ill-formed sequence there. -/
structure Scan.InBounds (b : Bytes) (scan : Scan) : Prop where
  cursor_le : scan.cursor ≤ b.length
  behind : (Bytes.slice? b scan.cursor b.length).isSome
  found : ∀ behind fault, Bytes.slice? b scan.cursor b.length = some behind →
    check behind = .error fault →
      let validEnd := scan.cursor + fault.validUpTo
      scan.cursor ≤ validEnd ∧ validEnd ≤ b.length ∧
        (∃ valid, Bytes.slice? b scan.cursor validEnd = some valid ∧ (lossy valid).utf8 = valid) ∧
        ∀ invalid, fault.errorLength = some invalid → validEnd + invalid ≤ b.length
  grows : ∀ later, turn b scan = .again later → scan.cursor < later.cursor

/-- With the cursor in range a scan is over, reads all that is left or up to behind a fault, or ends
in front of an unfinished sequence. -/
theorem turn_cases (before behind : Bytes) (read : Text) :
    let scan : Scan := ⟨before.length, read⟩
    (behind = [] ∧ turn (before ++ behind) scan = .leave (some scan)) ∨
    (∃ text : Text, behind = text.utf8 ∧ 0 < text.utf8.length ∧
      turn (before ++ behind) scan = .again ⟨before.length + text.utf8.length, read ++ text⟩) ∨
    (∃ (text : Text) (s later : Bytes), behind = text.utf8 ++ (s ++ later) ∧
      IsMaximalSubpart s (s ++ later) ∧ ¬ Unfinished (s ++ later) ∧
      turn (before ++ behind) scan =
        .again ⟨before.length + text.utf8.length + s.length, read ++ text ++ [replacement]⟩) ∨
    ∃ (text : Text) (s : Bytes), behind = text.utf8 ++ s ∧ Unfinished s ∧
      turn (before ++ behind) scan =
        .leave (some ⟨before.length + text.utf8.length, read ++ text⟩) := by
  intro scan
  obtain rfl | hne := eq_or_ne behind []
  · exact .inl ⟨rfl, by simp [turn, scan]⟩
  have hlt : before.length < (before ++ behind).length := by
    have hpos := List.length_pos_iff.mpr hne
    rw [List.length_append]
    omega
  have hchecked := checked_check behind
  generalize hcheck : check behind = outcome at hchecked
  cases hchecked with
  | whole text =>
    refine .inr (.inl ⟨text, rfl, List.length_pos_iff.mpr hne, ?_⟩)
    simp only [turn, scan, if_pos hlt, Bytes.slice?_end, hcheck]
    rw [List.length_append]
  | broken text subpart finished =>
    refine .inr (.inr (.inl ⟨text, _, _, rfl, subpart, finished, ?_⟩))
    simp only [turn, scan, if_pos hlt, Bytes.slice?_end, hcheck, Bytes.slice?_append, lossy_utf8]
  | unfinished text cutShort =>
    refine .inr (.inr (.inr ⟨text, _, rfl, cutShort, ?_⟩))
    simp only [turn, scan, if_pos hlt, Bytes.slice?_end, hcheck, Bytes.slice?_append, lossy_utf8]

/-- Whether a scan still comes out as the whole stream does: the text read so far and what can be
resolved behind the cursor make up what can be resolved of the stream. -/
def Scan.Follows (b : Bytes) (scan : Scan) : Prop :=
  ∃ before behind, b = before ++ behind ∧ before.length = scan.cursor ∧
    resolve b = (scan.text ++ (resolve behind).1, (resolve behind).2)

theorem Scan.Follows.inBounds {b : Bytes} {scan : Scan} (h : scan.Follows b) :
    scan.InBounds b := by
  obtain ⟨cursor, read⟩ := scan
  obtain ⟨before, behind, rfl, rfl, -⟩ := h
  refine ⟨by simp, by rw [Bytes.slice?_end]; rfl, ?_, ?_⟩
  · intro rest fault hrest hcheck
    obtain rfl : behind = rest :=
      Option.some.inj ((Bytes.slice?_end before behind).symm.trans hrest)
    have hchecked := checked_check behind
    rw [hcheck] at hchecked
    cases hchecked with
    | broken text subpart finished =>
      refine ⟨by simp, by simp, ⟨text.utf8, Bytes.slice?_append _ _ _, by rw [lossy_utf8]⟩, ?_⟩
      intro invalid hinvalid
      obtain rfl := Option.some.inj hinvalid
      simp only [List.length_append]
      omega
    | unfinished text cutShort =>
      exact ⟨by simp, by simp, ⟨text.utf8, Bytes.slice?_append _ _ _, by rw [lossy_utf8]⟩, by simp⟩
  · intro later hturn
    obtain ⟨-, hleave⟩ | ⟨text, -, hpos, hagain⟩ | ⟨text, s, rest, -, hsubpart, -, hagain⟩ |
      ⟨text, s, -, -, hleave⟩ := turn_cases before behind read
    · simp [hleave] at hturn
    · obtain rfl := Turn.again.inj (hagain.symm.trans hturn)
      dsimp only
      omega
    · obtain rfl := Turn.again.inj (hagain.symm.trans hturn)
      have hpos := hsubpart.length_pos
      dsimp only
      omega
    · simp [hleave] at hturn

/-- A turn that is not the last leaves the scan to come out as before. -/
theorem Scan.Follows.again {b : Bytes} {scan next : Scan} (h : scan.Follows b)
    (hturn : turn b scan = .again next) : next.Follows b := by
  obtain ⟨cursor, read⟩ := scan
  obtain ⟨before, behind, rfl, rfl, hresolve⟩ := h
  obtain ⟨-, hleave⟩ | ⟨text, rfl, -, hagain⟩ | ⟨text, s, rest, rfl, hsubpart, hfinished, hagain⟩ |
    ⟨text, s, -, -, hleave⟩ := turn_cases before behind read
  · simp [hleave] at hturn
  · obtain rfl := Turn.again.inj (hagain.symm.trans hturn)
    refine ⟨before ++ text.utf8, [], by simp, by simp, ?_⟩
    rw [hresolve, resolve_utf8, resolve_nil, List.append_nil]
  · obtain rfl := Turn.again.inj (hagain.symm.trans hturn)
    refine ⟨before ++ text.utf8 ++ s, rest, by simp, by simp [Nat.add_assoc], ?_⟩
    rw [hresolve, resolve_utf8_append, resolve_of_isMaximalSubpart hsubpart hfinished]
    simp
  · simp [hleave] at hturn

/-- The last turn leaves the scan in front of what cannot be resolved. -/
theorem Scan.Follows.leave {b : Bytes} {scan : Scan} {result : Option Scan} (h : scan.Follows b)
    (hturn : turn b scan = .leave result) :
    result = some ⟨b.length - (resolve b).2.length, (resolve b).1⟩ := by
  obtain ⟨cursor, read⟩ := scan
  obtain ⟨before, behind, rfl, rfl, hresolve⟩ := h
  obtain ⟨rfl, hleave⟩ | ⟨text, -, -, hagain⟩ | ⟨text, s, rest, -, -, -, hagain⟩ |
    ⟨text, s, rfl, hunfinished, hleave⟩ := turn_cases before behind read
  · obtain rfl := Turn.leave.inj (hleave.symm.trans hturn)
    rw [hresolve, resolve_nil, List.append_nil, List.append_nil]
    rfl
  · simp [hagain] at hturn
  · simp [hagain] at hturn
  · obtain rfl := Turn.leave.inj (hleave.symm.trans hturn)
    rw [hresolve, resolve_utf8_append, resolve_of_unfinished hunfinished]
    simp
    omega

theorem advances_turn (b : Bytes) :
    Turn.Advances (turn b) (Scan.Follows b) Scan.cursor b.length
      (· = some ⟨b.length - (resolve b).2.length, (resolve b).1⟩) where
  keeps _ _ h hturn := h.again hturn
  grows _ next h hturn := h.inBounds.grows next hturn
  within _ h := h.inBounds.cursor_le
  leaves _ _ h hturn := h.leave hturn

theorem follows_start (b : Bytes) : Scan.Follows b ⟨0, []⟩ := ⟨[], b, rfl, rfl, by simp⟩

end Decoder

/-- Whatever the text, the relay and its sink are, a walk through the text takes no slice out of
range or across a character, gets on with every turn and ends as the write does. Whatever a decoder
holds back and is fed, its scan takes no slice out of range, reads the bytes in front of a fault as
they are, gets on with every turn and ends in range, with the text that the decoder returns in front
of the bytes that it holds back. -/
theorem offset_loops_in_bounds :
    (∀ {σ : Type} [Sink σ] (relay : Relay σ) (text : Text),
      (∀ walk, Turn.Visits (Relay.turn text) ⟨0, relay⟩ walk → walk.InBounds text) ∧
      ∀ result, Turn.Ends (Relay.turn text) ⟨0, relay⟩ result ↔
        result = some (relay.write text)) ∧
    ∀ (decoder : Decoder) (piece : Bytes),
      let b := decoder.carry ++ piece
      (∀ scan, Turn.Visits (Decoder.turn b) ⟨0, []⟩ scan → scan.InBounds b) ∧
      ∃ scan : Decoder.Scan, scan.cursor ≤ b.length ∧
        decoder.feed piece = (scan.text, ⟨b.drop scan.cursor⟩) ∧
        ∀ result, Turn.Ends (Decoder.turn b) ⟨0, []⟩ result ↔ result = some scan := by
  constructor
  · intro σ _ relay text
    have hadvances := Relay.advances_turn text relay
    have hstart := Relay.follows_start text relay
    refine ⟨fun walk hwalk => (hadvances.visits hstart hwalk).inBounds, fun result => ?_⟩
    exact hadvances.ends_iff hstart
  · intro decoder piece b
    have hadvances := Decoder.advances_turn b
    have hstart := Decoder.follows_start b
    refine ⟨fun scan hscan => (hadvances.visits hstart hscan).inBounds,
      ⟨b.length - (Decoder.resolve b).2.length, (Decoder.resolve b).1⟩, Nat.sub_le _ _, ?_,
      fun result => hadvances.ends_iff hstart⟩
    have hcarry : b.drop (b.length - (Decoder.resolve b).2.length) = (Decoder.resolve b).2 :=
      (List.suffix_iff_eq_drop.mp (Decoder.carry_suffix b)).symm
    rw [hcarry]
    rfl

/-- Lines of one character in two bytes and in three, the second of them refused; a carry and the
byte that completes no sequence with it, a byte that begins none, and a sequence cut short. -/
theorem offset_loops_in_bounds_multibyte :
    let text : Text := ['±', '\n', '→', '\n', 'x']
    let sink : Recorder := { refuses := fun n => n = 2 }
    let posted : Recorder := { sink with posts := 1, delivered := [.stdout ['p', '±']] }
    let walk : Relay.Walk Recorder := ⟨3, { sink := posted }⟩
    let b : Bytes := [0xE2, 0x82, 0xFF, 0x61, 0xCE]
    let scan : Decoder.Scan := ⟨3, [Utf8.replacement, Utf8.replacement]⟩
    (Turn.Visits (Relay.turn text) ⟨0, ⟨sink, ['p']⟩⟩ walk ∧ walk.InBounds text ∧
      Turn.Ends (Relay.turn text) ⟨0, ⟨sink, ['p']⟩⟩
        (some (.error .disconnected, { sink := { posted with posts := 2 } }))) ∧
    Turn.Visits (Decoder.turn b) ⟨0, []⟩ scan ∧ scan.InBounds b ∧
      Turn.Ends (Decoder.turn b) ⟨0, []⟩
        (some ⟨4, [Utf8.replacement, Utf8.replacement, 'a']⟩) := by
  intro text sink posted walk b scan
  obtain ⟨hwalks, hscans⟩ := offset_loops_in_bounds
  obtain ⟨hbounds, hends⟩ := hwalks ⟨sink, ['p']⟩ text
  obtain ⟨hinside, final, -, hfeed, hfinal⟩ := hscans ⟨[0xE2]⟩ [0x82, 0xFF, 0x61, 0xCE]
  have hwalk : Turn.Visits (Relay.turn text) ⟨0, ⟨sink, ['p']⟩⟩ walk := .again .start rfl
  have hfirst : Decoder.turn b ⟨0, []⟩ = .again ⟨2, [Utf8.replacement]⟩ := by decide +kernel
  have hsecond : Decoder.turn b ⟨2, [Utf8.replacement]⟩ = .again scan := by decide +kernel
  have hscan : Turn.Visits (Decoder.turn b) ⟨0, []⟩ scan := .again (.again .start hfirst) hsecond
  refine ⟨⟨hwalk, hbounds walk hwalk, (hends _).mpr rfl⟩, hscan, hinside scan hscan, ?_⟩
  have hread : Decoder.feed ⟨[0xE2]⟩ [0x82, 0xFF, 0x61, 0xCE] =
      ([Utf8.replacement, Utf8.replacement, 'a'], ⟨[0xCE]⟩) := by decide +kernel
  obtain ⟨htext, hcarry⟩ := Prod.mk.inj (hread.symm.trans hfeed)
  have hcursor : 1 = 5 - final.cursor := by
    simpa using congrArg (fun decoder : Decoder => decoder.carry.length) hcarry
  refine (hfinal _).mpr ?_
  obtain ⟨cursor, read⟩ := final
  obtain rfl : cursor = 4 := by
    dsimp only at hcursor
    omega
  rw [show read = _ from htext.symm]

end BenchRelay
