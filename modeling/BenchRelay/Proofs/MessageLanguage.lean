import BenchRelay.Proofs.MessageGrammar
import Mathlib.Algebra.Order.Field.Rat
import Mathlib.Algebra.Order.Field.Basic
import Mathlib.Tactic.NormNum

/-!
# The language of messages

A text is read as a message exactly if it is a JSON text of a value that says the message, blanks
around it included. So two texts of one value are read alike, however they are written, and so are
two objects that agree in their members `type` and `data`, wherever these stand and whatever stands
beside them.

The numbers of such a text are those that are read as finite doubles. As the reader rounds twice,
there are numbers within the range of doubles that it takes for infinite.
-/

namespace BenchRelay

namespace Numeral

/-- The number that a numeral stands for, without its sign. -/
def magnitude (numeral : Numeral) : ℚ :=
  Json.ofDigits (numeral.whole ++ numeral.fraction) *
    10 ^ (numeral.exponent - numeral.fraction.length)

/-- The nearest double of a number is finite. -/
def InRange (numeral : Numeral) : Prop := numeral.magnitude < overflow

theorem inRange_whole_iff {negative : Bool} {whole : List ℕ} {power : ℕ} :
    InRange ⟨negative, whole, [], power⟩ ↔ Json.ofDigits whole * 10 ^ power < overflow := by
  have hmagnitude : magnitude ⟨negative, whole, [], power⟩ =
      (Json.ofDigits whole * 10 ^ power : ℕ) := by
    simp [magnitude]
  rw [InRange, hmagnitude, Nat.cast_lt]

end Numeral

namespace Message

open BenchRelay.Json (IsText)

/-- Whether a member has a part in what an object says. -/
def counts (member : Text × Json) : Bool :=
  member.1 == "type".toList || member.1 == "data".toList

theorem named_filter_counts {name : Text} (h : name = "type".toList ∨ name = "data".toList)
    (members : List (Text × Json)) : named name (members.filter counts) = named name members := by
  rw [named, List.filter_filter, named]
  congr 1
  funext member
  by_cases hmember : member.1 = name
  · rcases h with rfl | rfl <;> simp [counts, hmember]
  · simp [hmember]

/-- Objects say the same if the members that count are the same in any order. -/
theorem Says.of_perm {first second : List (Text × Json)} {message : Message}
    (h : (first.filter counts).Perm (second.filter counts))
    (hmeans : Says (.object first) message) : Says (.object second) message := by
  have hnamed {name : Text} (hname : name = "type".toList ∨ name = "data".toList)
      {member : Text × Json} (hfirst : named name first = [member]) :
      named name second = [member] := by
    rw [← named_filter_counts hname] at hfirst ⊢
    exact List.perm_singleton.mp (hfirst ▸ (h.symm.filter _))
  cases hmeans with
  | done htype => exact .done (hnamed (.inl rfl) htype)
  | stdout htype hdata => exact .stdout (hnamed (.inl rfl) htype) (hnamed (.inr rfl) hdata)

/-- A text is read as a message if and only if it is a JSON text, nested no deeper than the limit
and with finite numbers, of a value that says the message. How the value is written makes no
difference, nor do the order of an object's members and those that do not count. -/
theorem read_iff_isText :
    (∀ text message, read text = .ok message ↔
      ∃ value, IsText (·.isFinite) depthLimit value text ∧ Says value message) ∧
    (∀ value first second, IsText (·.isFinite) depthLimit value first →
      IsText (·.isFinite) depthLimit value second →
      ∀ message, read first = .ok message ↔ read second = .ok message) ∧
    (∀ members others first second, IsText (·.isFinite) depthLimit (.object members) first →
      IsText (·.isFinite) depthLimit (.object others) second →
      (members.filter counts).Perm (others.filter counts) →
      ∀ message, read first = .ok message ↔ read second = .ok message) := by
  have hmeans {value : Json} {text : Text} (h : IsText (·.isFinite) depthLimit value text)
      (message : Message) : read text = .ok message ↔ Says value message := by
    rw [read_eq_ok_iff]
    constructor
    · rintro ⟨other, hother, hmeans⟩
      exact h.unique hother ▸ hmeans
    · exact fun hmeans => ⟨value, h, hmeans⟩
  refine ⟨fun _ _ => read_eq_ok_iff, ?_, ?_⟩
  · intro value first second hfirst hsecond message
    rw [hmeans hfirst, hmeans hsecond]
  · intro members others first second hfirst hsecond hperm message
    rw [hmeans hfirst, hmeans hsecond]
    exact ⟨.of_perm hperm, .of_perm hperm.symm⟩

/-- A line of output with its members as they are. -/
def plainLine : Text := "\x7b\"type\":\"stdout\",\"data\":\"a/\"\x7d"

/-- The same members with blanks and escapes. -/
def escapedLine : Text :=
  " \x7b\"t\\u0079pe\" : \"stdout\" ,\t\"data\":\"\\u0061\\/\"\x7d\r\n"

/-- The same members the other way round, behind one of another name. -/
def extendedLine : Text :=
  "\x7b\"x\":[null,\x7b\"type\":true\x7d],\"data\":\"a/\",\"type\":\"stdout\"\x7d"

/-- The members of the first two lines. -/
def lineMembers : List (Text × Json) :=
  [("type".toList, .string "stdout"), ("data".toList, .string "a/")]

/-- The members of the third line. -/
def extendedMembers : List (Text × Json) :=
  [("x".toList, .array [.null, .object [("type".toList, .bool true)]]),
    ("data".toList, .string "a/"), ("type".toList, .string "stdout")]

section Disguised

variable {finite : Numeral → Prop}

theorem isText_plainLine : IsText finite depthLimit (.object lineMembers) plainLine := by
  have hmembers : Json.Written finite innerDepth (.members lineMembers) _ :=
    .member (.of_plain rfl) (.string_of_plain rfl) .alone
      (.lastMember (.of_plain rfl) (.string_of_plain rfl))
  exact ⟨[], plainLine, [], Json.blank_nil, Json.blank_nil, by simp,
    .object Json.blank_nil hmembers Json.blank_nil⟩

theorem isText_escapedLine : IsText finite depthLimit (.object lineMembers) escapedLine := by
  have hspace : Json.Blank [' '] := List.all_eq_true.mp rfl
  have hy : Json.Escape 'y' "u0079".toList :=
    .code (.digits rfl rfl rfl rfl : Json.FourHex (((0 * 16 + 0) * 16 + 7) * 16 + 9) _)
  have ha : Json.Escape 'a' "u0061".toList :=
    .code (.digits rfl rfl rfl rfl : Json.FourHex (((0 * 16 + 0) * 16 + 6) * 16 + 1) _)
  have hslash : Json.Escape '/' ['/'] := .letter (by simp [Json.letters])
  have htype : Json.Quoted "type" "t\\u0079pe".toList :=
    .plain (by decide) (by decide) (by decide) (.escape hy (.of_plain rfl))
  have hdata : Json.Quoted "a/" "\\u0061\\/".toList :=
    .escape ha (.escape hslash .nil)
  have hmembers : Json.Written finite innerDepth (.members lineMembers)
      "\"t\\u0079pe\" : \"stdout\" ,\t\"data\":\"\\u0061\\/\"".toList :=
    .member (.colon htype hspace hspace) (.string_of_plain rfl)
      (.blanks hspace (List.all_eq_true.mp rfl : Json.Blank ['\t']))
      (.lastMember (.of_plain rfl) (.string hdata))
  exact ⟨[' '], _, ['\r', '\n'], hspace, List.all_eq_true.mp rfl, rfl,
    .object Json.blank_nil hmembers Json.blank_nil⟩

theorem isText_extendedLine : IsText finite depthLimit (.object extendedMembers) extendedLine := by
  have hobject : Json.Written finite (innerDepth - 1)
      (.value (.object [("type".toList, .bool true)])) "\x7b\"type\":true\x7d".toList :=
    .object Json.blank_nil (.lastMember (.of_plain rfl) .true) Json.blank_nil
  have harray : Json.Written finite innerDepth
      (.value (.array [.null, .object [("type".toList, .bool true)]]))
      "[null,\x7b\"type\":true\x7d]".toList :=
    .array Json.blank_nil (.item .null .alone (.lastItem hobject)) Json.blank_nil
  have hmembers : Json.Written finite innerDepth (.members extendedMembers) _ :=
    .member (.of_plain rfl) harray .alone
      (.member (.of_plain rfl) (.string_of_plain rfl) .alone
        (.lastMember (.of_plain rfl) (.string_of_plain rfl)))
  exact ⟨[], extendedLine, [], Json.blank_nil, Json.blank_nil, by simp,
    .object Json.blank_nil hmembers Json.blank_nil⟩

end Disguised

theorem read_iff_isText_disguised :
    (IsText (·.isFinite) depthLimit (.object lineMembers) plainLine ∧
      IsText (·.isFinite) depthLimit (.object lineMembers) escapedLine ∧
      IsText (·.isFinite) depthLimit (.object extendedMembers) extendedLine ∧
      (lineMembers.filter counts).Perm (extendedMembers.filter counts)) ∧
    read escapedLine = .ok (.stdout "a/") ∧ read extendedLine = .ok (.stdout "a/") := by
  have hperm : (lineMembers.filter counts).Perm (extendedMembers.filter counts) := .swap _ _ []
  have hread := (read_iff_isText.1 plainLine (.stdout "a/")).mpr
    ⟨_, isText_plainLine, .stdout rfl rfl⟩
  exact ⟨⟨isText_plainLine, isText_escapedLine, isText_extendedLine, hperm⟩,
    (read_iff_isText.2.1 _ _ _ isText_plainLine isText_escapedLine _).mp hread,
    (read_iff_isText.2.2 _ _ _ _ isText_plainLine isText_extendedLine hperm _).mp hread⟩

/-! ### A number that is in range and refused -/

/-- A number just below the end of the range of doubles. -/
def lastNumeral : Numeral :=
  ⟨false, [1, 7, 9, 7, 6, 9, 3, 1, 3, 4, 8, 6, 2, 3, 1, 5, 8], [], 292⟩

/-- That number beside the kind of a message. -/
def lastNumber : Text := "\x7b\"x\":17976931348623158e292,\"type\":\"done\"\x7d"

theorem numberText_lastNumeral : Json.NumberText lastNumeral "17976931348623158e292".toList := by
  have hwhole : Json.Whole lastNumeral.whole "17976931348623158".toList :=
    ⟨⟨List.all_eq_true.mp rfl, rfl, nofun⟩, by decide⟩
  have hpower : Json.Digits [2, 9, 2] "292".toList :=
    ⟨List.all_eq_true.mp rfl, rfl, nofun⟩
  have hexponent : Json.Exponent lastNumeral.exponent "e292".toList :=
    .power (.inl rfl) .none hpower
  exact .parts hwhole .none hexponent

theorem isText_lastNumber : IsText Numeral.InRange depthLimit
    (.object [("x".toList, .number lastNumeral), ("type".toList, .string "done")]) lastNumber := by
  have hnumber : Json.Written Numeral.InRange innerDepth (.value (.number lastNumeral))
      "17976931348623158e292".toList :=
    .number numberText_lastNumeral (Numeral.inRange_whole_iff.mpr (by decide +kernel))
  have hmembers : Json.Written Numeral.InRange innerDepth (.members
      [("x".toList, .number lastNumeral), ("type".toList, .string "done")]) _ :=
    .member (.of_plain rfl) hnumber .alone (.lastMember (.of_plain rfl) (.string_of_plain rfl))
  exact ⟨[], lastNumber, [], Json.blank_nil, Json.blank_nil, by simp,
    .object Json.blank_nil hmembers Json.blank_nil⟩

/-- Not every text is read whose numbers are within the range of doubles. -/
theorem read_lastNumber : ¬ (read lastNumber = .ok .done ↔
    ∃ value, IsText Numeral.InRange depthLimit value lastNumber ∧ Says value .done) := by
  intro h
  have hrefused : (read lastNumber).toOption = none := by decide +kernel
  rw [h.mpr ⟨_, isText_lastNumber, .done rfl⟩] at hrefused
  cases hrefused

end Message

end BenchRelay
