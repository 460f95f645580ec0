import BenchRelay.Message.Json
import BenchRelay.Proofs.DecoderCalls
import BenchRelay.Proofs.LineCutting

/-!
# Reading and cutting lines commute

A newline byte continues no sequence of UTF-8, so it ends what is cut short before it and is read as
the newline character, and nothing else is. Cutting the lossy reading of a stream at newline
characters is therefore cutting the stream at newline bytes and reading every line by itself.
-/

namespace BenchRelay.Utf8

/-- The lines of a byte stream, each read by itself. -/
def lossyLines (b : Bytes) : Lines Char := (Lines.split Message.newline b).map lossy

/-- A newline byte breaks off a sequence that is cut short before it. -/
theorem continued_append_newline {bits : ℕ} {expected : List ByteRange} {b : Bytes}
    (hexpected : ∀ range ∈ expected, ¬ range.has Message.newline)
    (h : continued bits expected b = .cutShort) (more : Bytes) :
    continued bits expected (b ++ Message.newline :: more) =
      .illFormed (Message.newline :: more) := by
  induction expected generalizing bits b with
  | nil => simp [continued] at h
  | cons range expected ih =>
    simp only [List.mem_cons, forall_eq_or_imp] at hexpected
    cases b with
    | nil => simp only [List.nil_append, continued, if_neg hexpected.1]
    | cons x b =>
      simp only [continued, List.cons_append] at h ⊢
      split at h
      · next hx => rw [if_pos hx, ih hexpected.2 h]
      · simp at h

theorem front_append_newline {x : UInt8} {b : Bytes} (h : front x b = .cutShort) (more : Bytes) :
    front x (b ++ Message.newline :: more) = .illFormed (Message.newline :: more) := by
  have htable : ∀ row ∈ table, ∀ range ∈ row.tail, ¬ range.has Message.newline := by decide
  unfold front at h ⊢
  split at h
  · simp at h
  · next lead hlead =>
    obtain ⟨range, hrow, -⟩ := ofByte?_eq_some_iff.mp hlead
    exact continued_append_newline (htable _ hrow) h more

theorem lossy_newline (b : Bytes) : lossy (Message.newline :: b) = '\n' :: lossy b :=
  lossy_encode_append '\n' b

/-- A newline byte is read as a newline, whatever is left unfinished before it. -/
theorem lossy_append_newline (a b : Bytes) :
    lossy (a ++ Message.newline :: b) = lossy a ++ '\n' :: lossy b := by
  induction a using lossy.induct with
  | case1 => simp [lossy_newline]
  | case2 x a c rest h ih =>
    rw [List.cons_append, lossy_of_front_character (front_append_of_character h _), ih,
      lossy_of_front_character h, List.cons_append]
  | case3 x a rest h ih =>
    rw [List.cons_append, lossy_of_front_illFormed (front_append_of_illFormed h _), ih,
      lossy_of_front_illFormed h, List.cons_append]
  | case4 x a h =>
    rw [List.cons_append, lossy_of_front_illFormed (front_append_newline h b), lossy_newline,
      lossy_of_front_cutShort h, List.singleton_append]

/-- No other bytes are read as a newline. -/
theorem newline_not_mem_lossy {b : Bytes} (h : Message.newline ∉ b) : '\n' ∉ lossy b := by
  induction b using lossy.induct with
  | case1 => simp
  | case2 x b c rest hfront ih =>
    rw [lossy_of_front_character hfront, List.mem_cons, not_or]
    rw [encode_of_front hfront, List.mem_append, not_or] at h
    refine ⟨?_, ih h.2⟩
    rintro rfl
    exact h.1 (by decide)
  | case3 x b rest hfront ih =>
    rw [lossy_of_front_illFormed hfront, List.mem_cons, not_or]
    obtain ⟨s, hs, -⟩ := isMaximalSubpart_of_front_illFormed hfront
    rw [hs, List.mem_append, not_or] at h
    exact ⟨by decide, ih h.2⟩
  | case4 x b hfront =>
    rw [lossy_of_front_cutShort hfront]
    decide

/-- Reading what lines are put together to is putting together their readings. -/
theorem lossy_unsplit (lines : Lines UInt8) :
    lossy (lines.unsplit Message.newline) = (lines.map lossy).unsplit '\n' := by
  obtain ⟨complete, rest⟩ := lines
  induction complete with
  | nil => simp [Lines.unsplit, Lines.map]
  | cons line complete ih =>
    simp only [Lines.unsplit, Lines.map, List.flatMap_cons, List.map_cons, List.append_assoc,
      List.cons_append, List.nil_append] at ih ⊢
    rw [lossy_append_newline, ih]

/-- The lines of a lossy reading are the lines of the stream, each read by itself. -/
theorem split_lossy (b : Bytes) : Lines.split '\n' (lossy b) = lossyLines b := by
  have hclean := Lines.clean_split Message.newline b
  rw [Lines.split_eq_iff, lossyLines, ← lossy_unsplit, Lines.unsplit_split]
  refine ⟨⟨?_, newline_not_mem_lossy hclean.rest⟩, rfl⟩
  intro line hline
  obtain ⟨bytes, hbytes, rfl⟩ := List.mem_map.mp hline
  exact newline_not_mem_lossy (hclean.complete bytes hbytes)

theorem complete_lossyLines_eq_nil_iff {b : Bytes} :
    (lossyLines b).complete = [] ↔ Message.newline ∉ b := by
  rw [← Lines.complete_split_eq_nil_iff]
  exact List.map_eq_nil_iff

/-- What is pending joins the first line, so the lines are as many as the newlines. -/
theorem length_complete_lossyLines_after (pending : Text) (b : Bytes) :
    ((lossyLines b).after pending).complete.length = b.count Message.newline := by
  have hlength : (lossyLines b).complete.length = b.count Message.newline := by
    rw [lossyLines, Lines.map, List.length_map, Lines.length_complete_split]
  rw [← hlength]
  rcases lossyLines b with ⟨_ | ⟨first, more⟩, rest⟩ <;> rfl

/-- What is pending stays in front of the rest where there is no newline. -/
theorem rest_lossyLines_after (pending : Text) (b : Bytes) :
    ((lossyLines b).after pending).rest =
      (if Message.newline ∈ b then [] else pending) ++
        lossy (Lines.split Message.newline b).rest := by
  by_cases h : Message.newline ∈ b
  · rw [if_pos h, Lines.rest_after_of_complete_ne_nil]
    · rfl
    · exact fun hnil => complete_lossyLines_eq_nil_iff.mp hnil h
  · rw [if_neg h, Lines.rest_after_of_complete_nil (complete_lossyLines_eq_nil_iff.mpr h)]
    rfl

end BenchRelay.Utf8
