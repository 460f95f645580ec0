import BenchRelay.Proofs.Arrivals

/-!
# Lines torn by a full writer

Posting to a writer may go on when it is full. What it has is then a function of its capacity and of
all the lines that were posted: their bytes one after another, cut where the capacity ends. So a
line is torn only where the capacity ends within it, and nothing ever stands behind it. Whether a
flush fails is seen by its own post alone.
-/

namespace BenchRelay.Writer

/-- The bytes at the front of a stream that fit into a capacity. -/
def cut (capacity : Option ℕ) (b : Bytes) : Bytes :=
  match capacity with
  | none => b
  | some capacity => b.take capacity

/-- Whether so many bytes fit into a capacity. -/
def fits (capacity : Option ℕ) (count : ℕ) : Bool := capacity.all (count ≤ ·)

/-- A writer after a stream was written to it as far as it fits, with so many flushes. -/
def given (start : Writer) (b : Bytes) (flushes : ℕ) : Writer :=
  { start with flushes, backwards := (cut start.capacity b).reverse }

@[simp] theorem written_given (start : Writer) (b : Bytes) (flushes : ℕ) :
    (given start b flushes).written = cut start.capacity b := by
  simp [given, written]

theorem cut_of_fits {capacity : Option ℕ} {b : Bytes} (h : fits capacity b.length) :
    cut capacity b = b := by
  cases capacity with
  | none => rfl
  | some capacity => exact List.take_of_length_le (by simpa [fits] using h)

/-- A stream that does not fit is cut before whatever stands behind it. -/
theorem cut_append_of_not_fits {capacity : Option ℕ} {b : Bytes} (h : ¬ fits capacity b.length)
    (more : Bytes) : cut capacity (b ++ more) = cut capacity b := by
  cases capacity with
  | none => simp [fits] at h
  | some capacity =>
    have hle : capacity ≤ b.length := by
      simp only [fits, Option.all_some, decide_eq_true_eq] at h
      omega
    exact List.take_append_of_le_length hle

theorem fits_of_le {capacity : Option ℕ} {m n : ℕ} (h : fits capacity n) (hle : m ≤ n) :
    fits capacity m := by
  cases capacity with
  | none => rfl
  | some capacity =>
    simp only [fits, Option.all_some, decide_eq_true_eq] at h ⊢
    omega

/-- What fits is appended and what does not is dropped, which is cutting the longer stream. -/
theorem cut_append_take_room (start : Writer) (b p : Bytes) (flushes : ℕ) :
    cut start.capacity b ++ p.take ((given start b flushes).room p.length) =
      cut start.capacity (b ++ p) := by
  cases hcapacity : start.capacity with
  | none => simp [given, room, cut, hcapacity]
  | some capacity =>
    have hroom : (given start b flushes).room p.length = min p.length (capacity - b.length) := by
      simp only [given, room, cut, hcapacity, List.length_reverse, List.length_take]
      omega
    have htake : p.take (min p.length (capacity - b.length)) = p.take (capacity - b.length) := by
      rw [List.take_eq_take_iff]
      omega
    simp only [cut, hroom, htake, List.take_append]

theorem le_room_given_iff (start : Writer) (b : Bytes) (flushes : ℕ) {p : Bytes} (hp : p ≠ []) :
    p.length ≤ (given start b flushes).room p.length ↔
      fits start.capacity (b ++ p).length = true := by
  have hlength := List.length_pos_iff.mpr hp
  cases hcapacity : start.capacity with
  | none => simp [given, room, fits, hcapacity]
  | some capacity =>
    simp only [given, room, cut, fits, hcapacity, List.length_reverse, List.length_take,
      List.length_append, Option.all_some, decide_eq_true_eq]
    omega

/-- A write succeeds if the stream still fits, and the stream is cut all the same. -/
theorem write_given (start : Writer) (b : Bytes) (flushes : ℕ) {p : Bytes} (hp : p ≠ []) :
    (given start b flushes).write p =
      (if fits start.capacity (b ++ p).length then .ok () else .error start.whenFull.reason,
        given start (b ++ p) flushes) := by
  have hcut := cut_append_take_room start b p flushes
  have hfits := le_room_given_iff start b flushes hp
  have hlater : { given start b flushes with
      backwards := (p.take ((given start b flushes).room p.length)).reverseAux
        (given start b flushes).backwards } = given start (b ++ p) flushes := by
    simp only [given, List.reverseAux_eq, ← hcut, List.reverse_append]
  simp only [write, hlater, hfits]
  split <;> rfl

/-- A post succeeds if its line still fits and the flush behind it does not fail. Where the line
does not fit, a failure at its last byte differs from one before. -/
theorem post_given (start : Writer) (b : Bytes) (flushes : ℕ) (message : Message) :
    Sink.post (given start b flushes) message =
      if fits start.capacity (b ++ message.line).length then
        (if start.failsFlush (flushes + 1) then .error (.io "flush failed") else .ok (),
          given start (b ++ message.line) (flushes + 1))
      else
        (if start.capacity = some ((b ++ message.line).length - 1) then
            .error (.io start.whenFull.reason)
          else .error (.encode start.whenFull.reason),
          given start (b ++ message.line) flushes) := by
  have hbody := write_given start b flushes (Message.body_ne_nil message)
  have hend := write_given start (b ++ message.body) flushes (List.cons_ne_nil Message.newline [])
  rw [List.append_assoc, show message.body ++ [Message.newline] = message.line from rfl] at hend
  have hlength : (b ++ message.line).length = (b ++ message.body).length + 1 := by
    simp [Message.line, Message.body, Nat.add_assoc]
  change post (given start b flushes) message = _
  simp only [post, show message.toJson.utf8 = message.body from rfl, hbody]
  by_cases hfits : fits start.capacity (b ++ message.body).length
  · simp only [hfits, if_true, hend]
    by_cases hline : fits start.capacity (b ++ message.line).length
    · simp only [hline, if_true, flush]
      by_cases hfails : start.failsFlush (flushes + 1)
      · simp [given, hfails]
      · simp [given, hfails]
    · have hlast : start.capacity = some ((b ++ message.line).length - 1) := by
        cases hcapacity : start.capacity with
        | none => simp [fits, hcapacity] at hline
        | some capacity =>
          simp only [fits, hcapacity, Option.all_some, decide_eq_true_eq] at hfits hline
          rw [Option.some.injEq]
          omega
      simp only [hline, if_false, if_pos hlast, Bool.false_eq_true]
  · have hline : ¬ fits start.capacity (b ++ message.line).length :=
      fun h => hfits (fits_of_le h (by omega))
    have hlast : start.capacity ≠ some ((b ++ message.line).length - 1) := by
      intro hcapacity
      simp only [fits, hcapacity, Option.all_some, decide_eq_true_eq] at hfits
      omega
    have hsame : given start (b ++ message.line) flushes =
        given start (b ++ message.body) flushes := by
      rw [show b ++ message.line = b ++ message.body ++ [Message.newline] by
        rw [List.append_assoc]; rfl]
      simp only [given, cut_append_of_not_fits hfits]
    simp only [hfits, hline, hsame, if_false, if_neg hlast, Bool.false_eq_true]

/-- How many bytes the first so many lines have. -/
def extent (messages : List Message) (count : ℕ) : ℕ :=
  ((messages.take count).flatMap Message.line).length

/-- How many of the first so many lines fit into a capacity. -/
def fitting (capacity : Option ℕ) (messages : List Message) (count : ℕ) : ℕ :=
  (List.range count).countP fun i => fits capacity (extent messages (i + 1))

theorem lines_succ {messages : List Message} {k : ℕ} {message : Message}
    (h : messages[k]? = some message) : (messages.take (k + 1)).flatMap Message.line =
      (messages.take k).flatMap Message.line ++ message.line := by
  rw [List.take_add_one, h, List.flatMap_append, Option.toList_some, List.flatMap_singleton]

theorem extent_mono (messages : List Message) {i j : ℕ} (h : i ≤ j) :
    extent messages i ≤ extent messages j := by
  induction j, h using Nat.le_induction with
  | base => exact Nat.le_refl _
  | succ j _ ih =>
    refine ih.trans ?_
    cases hmessage : messages[j]? with
    | none => simp [extent, List.take_add_one, hmessage]
    | some message =>
      rw [extent, extent, lines_succ hmessage, List.length_append]
      exact Nat.le_add_right _ _

/-- One more of several posts. -/
theorem post_given_take (start : Writer) {messages : List Message} {k : ℕ} {message : Message}
    (h : messages[k]? = some message) (flushes : ℕ) :
    Sink.post (given start ((messages.take k).flatMap Message.line) flushes) message =
      if fits start.capacity (extent messages (k + 1)) then
        (if start.failsFlush (flushes + 1) then .error (.io "flush failed") else .ok (),
          given start ((messages.take (k + 1)).flatMap Message.line) (flushes + 1))
      else
        (if start.capacity = some (extent messages (k + 1) - 1) then
            .error (.io start.whenFull.reason)
          else .error (.encode start.whenFull.reason),
          given start ((messages.take (k + 1)).flatMap Message.line) flushes) := by
  rw [post_given, extent, lines_succ h]

/-- After so many posts a writer has what fits of their lines, and was flushed once for every line
that fits. -/
theorem afterPosts_take {start : Writer} (hfresh : start = given start [] 0)
    (messages : List Message) {k : ℕ} (hk : k ≤ messages.length) :
    Sink.afterPosts start (messages.take k) =
      given start ((messages.take k).flatMap Message.line)
        (fitting start.capacity messages k) := by
  induction k with
  | zero => simpa [fitting] using hfresh
  | succ k ih =>
    have hmessage : messages[k]? = some messages[k] := List.getElem?_eq_getElem hk
    have htake : messages.take (k + 1) = messages.take k ++ [messages[k]] := by
      rw [List.take_add_one, hmessage, Option.toList_some]
    have hfitting : fitting start.capacity messages (k + 1) =
        fitting start.capacity messages k +
          if fits start.capacity (extent messages (k + 1)) then 1 else 0 := by
      rw [fitting, List.range_succ, List.countP_append, List.countP_singleton, fitting]
    calc Sink.afterPosts start (messages.take (k + 1))
        = (Sink.post (given start ((messages.take k).flatMap Message.line)
            (fitting start.capacity messages k)) messages[k]).2 := by
          rw [htake, Sink.afterPosts_append, ih (by omega)]
          rfl
      _ = _ := by
          rw [post_given_take start hmessage, hfitting]
          split <;> rfl

/-- Lines fit up to one of them and none does from there on. -/
theorem exists_fits_iff_le (capacity : Option ℕ) (messages : List Message) :
    ∃ whole ≤ messages.length, ∀ k ≤ messages.length,
      fits capacity (extent messages k) = true ↔ k ≤ whole := by
  let whole := Nat.findGreatest (fun k => fits capacity (extent messages k) = true) messages.length
  have hnone : fits capacity (extent messages 0) = true := by
    cases capacity <;> simp [fits, extent]
  have hwhole : fits capacity (extent messages whole) = true :=
    Nat.findGreatest_spec (P := fun k => fits capacity (extent messages k) = true)
      (Nat.zero_le _) hnone
  refine ⟨whole, Nat.findGreatest_le _, fun k hk => ⟨fun h => ?_, fun hle => ?_⟩⟩
  · exact Nat.le_findGreatest hk h
  · exact fits_of_le hwhole (extent_mono messages hle)

/-- A line that does not fit is torn. -/
theorem exists_torn {capacity : Option ℕ} {b line : Bytes} (hb : fits capacity b.length)
    (hline : ¬ fits capacity (b ++ line).length) :
    ∃ torn, torn <+: line ∧ torn ≠ line ∧ cut capacity (b ++ line) = b ++ torn := by
  cases capacity with
  | none => simp [fits] at hline
  | some capacity =>
    simp only [fits, Option.all_some, decide_eq_true_eq, List.length_append] at hb hline
    refine ⟨line.take (capacity - b.length), List.take_prefix _ _, ?_, ?_⟩
    · intro heq
      have hlength := congrArg List.length heq
      rw [List.length_take] at hlength
      omega
    · rw [cut, List.take_append, List.take_of_length_le hb]

/-- The stream of lines is cut behind a number of whole lines and a part of the next one. -/
theorem exists_cut_lines (capacity : Option ℕ) (messages : List Message) :
    ∃ whole ≤ messages.length, ∃ torn,
      (∀ k ≤ whole, cut capacity ((messages.take k).flatMap Message.line) =
        (messages.take k).flatMap Message.line) ∧
      (∀ k ≤ messages.length, whole < k → cut capacity ((messages.take k).flatMap Message.line) =
        (messages.take whole).flatMap Message.line ++ torn) ∧
      ∀ message, messages[whole]? = some message → torn <+: message.line ∧ torn ≠ message.line := by
  obtain ⟨whole, hwhole, hfits⟩ := exists_fits_iff_le capacity messages
  have htake {k : ℕ} (hk : k ≤ whole) : cut capacity ((messages.take k).flatMap Message.line) =
      (messages.take k).flatMap Message.line :=
    cut_of_fits ((hfits k (hk.trans hwhole)).mpr hk)
  cases hmessage : messages[whole]? with
  | none =>
    have hall := List.getElem?_eq_none_iff.mp hmessage
    refine ⟨whole, hwhole, [], fun k => htake, fun k hk hlt => by omega, fun message h => ?_⟩
    rw [hmessage] at h
    cases h
  | some message =>
    obtain ⟨hlt, -⟩ := List.getElem?_eq_some_iff.mp hmessage
    have hnot : ¬ fits capacity ((messages.take (whole + 1)).flatMap Message.line).length :=
      fun h => absurd ((hfits (whole + 1) hlt).mp h) (by omega)
    rw [lines_succ hmessage] at hnot
    obtain ⟨torn, hstart, hne, hcut⟩ := exists_torn ((hfits whole hwhole).mpr (Nat.le_refl _)) hnot
    refine ⟨whole, hwhole, torn, fun k => htake, fun k hk hgt => ?_, ?_⟩
    · -- what stands behind the torn line has no part in the cut stream
      obtain ⟨more, hmore⟩ : ∃ more, (messages.take k).flatMap Message.line =
          (messages.take whole).flatMap Message.line ++ message.line ++ more := by
        refine ⟨((messages.take k).drop (whole + 1)).flatMap Message.line, ?_⟩
        rw [← lines_succ hmessage, ← List.flatMap_append]
        conv_lhs => rw [← List.take_append_drop (whole + 1) (messages.take k), List.take_take,
          min_eq_left (by omega)]
      rw [hmore, cut_append_of_not_fits hnot, hcut]
    · intro other hother
      obtain rfl := Option.some.inj (hmessage.symm.trans hother)
      exact ⟨hstart, hne⟩

/-- A piece of a stream arrives whole if the stream fits up to its end. -/
theorem cut_append_eq_iff (capacity : Option ℕ) (b : Bytes) {p : Bytes} (hp : p ≠ []) :
    cut capacity (b ++ p) = cut capacity b ++ p ↔ fits capacity (b ++ p).length = true := by
  have hlength := List.length_pos_iff.mpr hp
  cases capacity with
  | none => simp [cut, fits]
  | some capacity =>
    simp only [cut, fits, List.take_append, List.append_cancel_left_eq, List.take_eq_self_iff,
      Option.all_some, decide_eq_true_eq, List.length_append]
    omega

/-- Messages posted one after another to a writer, whatever becomes of each: after any of them it
has what fits of the lines so far, so that all lines are whole up to one that is torn and nothing
stands behind that one; no flush has a part in this. A post writes its whole line if it fits, and
then succeeds unless its flush fails, flushes being counted by the lines that were written whole.
Otherwise the failure says whether it was only the newline for which there was no room. -/
theorem posts_until_full (capacity : Option ℕ) (whenFull : WhenFull) (failsFlush : ℕ → Bool)
    (messages : List Message) :
    let start (failsFlush : ℕ → Bool) : Writer := { capacity, whenFull, failsFlush }
    let after (k : ℕ) := Sink.afterPosts (start failsFlush) (messages.take k)
    (∀ k ≤ messages.length,
      (after k).written = cut capacity ((messages.take k).flatMap Message.line) ∧
      (after k).flushes = fitting capacity messages k ∧
      ∀ other, (Sink.afterPosts (start other) (messages.take k)).written = (after k).written) ∧
    (∃ whole torn,
      (∀ k ≤ whole, (after k).written = (messages.take k).flatMap Message.line) ∧
      (∀ k ≤ messages.length, whole < k →
        (after k).written = (messages.take whole).flatMap Message.line ++ torn) ∧
      ∀ message, messages[whole]? = some message →
        torn <+: message.line ∧ torn ≠ message.line) ∧
    ∀ k message, messages[k]? = some message →
      let outcome := (Sink.post (after k) message).1
      ((after (k + 1)).written = (after k).written ++ message.line ↔
        fits capacity (extent messages (k + 1))) ∧
      (fits capacity (extent messages (k + 1)) →
        outcome = if failsFlush ((after k).flushes + 1) then .error (.io "flush failed")
          else .ok ()) ∧
      (¬ fits capacity (extent messages (k + 1)) →
        outcome = if capacity = some (extent messages (k + 1) - 1) then
            .error (.io whenFull.reason)
          else .error (.encode whenFull.reason)) := by
  intro start after
  have hfresh (flushing : ℕ → Bool) : start flushing = given (start flushing) [] 0 := by
    cases capacity <;> simp [start, given, cut]
  have hafter {k : ℕ} (hk : k ≤ messages.length) : after k =
      given (start failsFlush) ((messages.take k).flatMap Message.line)
        (fitting capacity messages k) :=
    afterPosts_take (hfresh failsFlush) messages hk
  have hwritten {k : ℕ} (hk : k ≤ messages.length) : (after k).written =
      cut capacity ((messages.take k).flatMap Message.line) := by
    rw [hafter hk, written_given]
  refine ⟨fun k hk => ⟨hwritten hk, by rw [hafter hk]; rfl, fun other => ?_⟩, ?_, ?_⟩
  · rw [hwritten hk, afterPosts_take (hfresh other) messages hk, written_given]
  · obtain ⟨whole, hwhole, torn, htake, htorn, hpart⟩ := exists_cut_lines capacity messages
    exact ⟨whole, torn, fun k hk => (hwritten (hk.trans hwhole)).trans (htake k hk),
      fun k hk hgt => (hwritten hk).trans (htorn k hk hgt), hpart⟩
  · intro k message hmessage outcome
    obtain ⟨hlt, -⟩ := List.getElem?_eq_some_iff.mp hmessage
    have hpost := post_given_take (start failsFlush) hmessage (fitting capacity messages k)
    rw [← hafter hlt.le] at hpost
    have hflushes : (after k).flushes = fitting capacity messages k := by rw [hafter hlt.le]; rfl
    refine ⟨?_, fun hfits => ?_, fun hfits => ?_⟩
    · rw [hwritten hlt, hwritten hlt.le, extent, lines_succ hmessage]
      exact cut_append_eq_iff capacity _ (by simp [Message.line])
    · rw [hflushes, show outcome = _ from congrArg Prod.fst hpost, if_pos hfits]
    · rw [show outcome = _ from congrArg Prod.fst hpost, if_neg hfits]

/-- There is room for one line, whose flush fails, and for another but for its newline. -/
theorem posts_until_full_lost_newline :
    let messages : List Message := [.stdout ['a'], .stdout ['b'], .done]
    let start : Writer := { capacity := some 57, failsFlush := fun n => n = 1 }
    let after (k : ℕ) := Sink.afterPosts start (messages.take k)
    (∃ torn, torn <+: (Message.stdout ['b']).line ∧
      (after 3).written = (Message.stdout ['a']).line ++ torn) ∧
    (Sink.post (after 0) (.stdout ['a'])).1 = .error (.io "flush failed") ∧
    (Sink.post (after 1) (.stdout ['b'])).1 = .error (.io "writer full") ∧
    (Sink.post (after 2) .done).1 = .error (.encode "writer full") := by
  intro messages start after
  have hfits : fits (some 57) (extent messages 1) = true ∧
      fits (some 57) (extent messages 2) = false ∧ fits (some 57) (extent messages 3) = false ∧
      extent messages 2 = 58 ∧ extent messages 3 = 74 := by decide +kernel
  obtain ⟨hone, htwo, hthree, hextent, hall⟩ := hfits
  obtain ⟨hstates, -, hposts⟩ :=
    posts_until_full (some 57) .refuse (fun n => decide (n = 1)) messages
  obtain ⟨hwritten, -, -⟩ := hstates 3 (Nat.le_refl 3)
  obtain ⟨-, hfirst, -⟩ := hposts 0 _ rfl
  obtain ⟨-, -, hsecond⟩ := hposts 1 _ rfl
  obtain ⟨-, -, hthird⟩ := hposts 2 _ rfl
  refine ⟨⟨(Message.stdout ['b']).body, ⟨[Message.newline], rfl⟩, ?_⟩, ?_, ?_, ?_⟩
  · exact hwritten.trans (by decide +kernel)
  · exact hfirst hone
  · refine (hsecond (by simp [htwo])).trans ?_
    rw [hextent]
    rfl
  · refine (hthird (by simp [hthree])).trans ?_
    rw [hall]
    rfl

end BenchRelay.Writer
