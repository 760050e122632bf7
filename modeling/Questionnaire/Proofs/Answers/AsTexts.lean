import Questionnaire.Proofs.Preview.Outcome
import Questionnaire.Service.Bundled

/-! # Answers as texts

An answer may be given as a number, as a text that writes the number, or as an object that nobody
expects; what counts is its key. `Answers.asTexts` puts the key in place of every value, and for a
list the keys of its elements. A value and its text say the same (`Json.said_asText`), a list of
nulls included, whose text is blank. So the answers as texts have the same effect on every form, and
they still have it without those of them that are blank (`only_texts_count`). -/

namespace Questionnaire

/-! ### Keys are not empty -/

namespace Number

theorem toString_int_ne_empty (n : Int) : toString n ≠ "" := by
  rw [Int.toString_eq_repr, Int.repr_eq_if]
  split
  · exact Nat.repr_ne_empty
  · simp

theorem Binary64.positionalText_ne_empty (d : Decimal) (point : Bool) :
    positionalText d point ≠ "" := by
  unfold positionalText
  obtain ⟨whole, decimals⟩ := d.positional
  -- without digits in front of the point a zero is put there
  have hwhole : (if whole.isEmpty then ['0'] else whole) ≠ [] := by
    cases whole with
    | nil => simp
    | cons d ds => simp
  dsimp only
  generalize (if whole.isEmpty then ['0'] else whole) = digits at hwhole ⊢
  generalize (if decimals.isEmpty && point then ['0'] else decimals) = more
  rw [Ne, ← String.toList_eq_nil_iff, String.toList_ofList]
  split
  · exact hwhole
  · exact fun hnil => hwhole (List.append_eq_nil_iff.mp hnil).1

/-- **The key of a number is not empty.** -/
theorem keyText_ne_empty (n : Number) : n.keyText ≠ "" := by
  cases n with
  | integer n _ => exact toString_int_ne_empty n
  | double x =>
    have htext : x.keyText ≠ "" := by
      unfold Binary64.keyText
      split
      · exact toString_int_ne_empty _
      · intro hempty
        exact Binary64.positionalText_ne_empty _ _ (String.append_eq_empty_iff.mp hempty).2
    exact htext

end Number

namespace Json

theorem compact_obj_ne_empty (members : List (String × Json)) : (obj members).compact ≠ "" := by
  unfold compact compactChars
  rw [Ne, ← String.toList_eq_nil_iff, String.toList_ofList]
  exact List.cons_ne_nil _ _

/-! ### The text of a value -/

/-- The value with its key in its place, and for a list the keys of its elements; null stays. -/
def asText : Json → Json
  | .arr items => .arr ((items.filterMap key?).map .str)
  | value => .ofText? value.key?

/-- The keys that the value puts forward, unless it is blank. -/
def said (value : Json) : List String := if value.isBlank then [] else Answers.keysOf value

theorem said_str {text : String} (h : text ≠ "") : (str text).said = [text] := by
  have hfull : (str text).isBlank = false := by simpa [isBlank] using h
  unfold said
  rw [hfull]
  rfl

theorem said_arr (items : List Json) : (arr items).said = items.filterMap key? := by
  cases items with
  | nil => rfl
  | cons item items => rfl

theorem filterMap_key?_map_str (texts : List String) :
    (texts.map str).filterMap key? = texts := by
  induction texts with
  | nil => rfl
  | cons text texts ih => simp [key?, ih]

/-- **A value and its text say the same.** -/
theorem said_asText (value : Json) : value.asText.said = value.said := by
  cases value with
  | null => rfl
  | bool b => cases b <;> rfl
  | num n => exact said_str n.keyText_ne_empty
  | str s => rfl
  | arr items =>
    -- the elements without a key are gone, and with them what may have kept the list from being blank
    calc (arr ((items.filterMap key?).map str)).said
        = ((items.filterMap key?).map str).filterMap key? := said_arr _
      _ = items.filterMap key? := filterMap_key?_map_str _
      _ = (arr items).said := (said_arr items).symm
  | obj members => exact said_str (compact_obj_ne_empty members)

end Json

/-! ### Answers -/

namespace Answers

/-- The answers with the text of every value in its place. -/
def asTexts (answers : Answers) : Answers :=
  ⟨answers.members.map fun member => (member.1, member.2.asText)⟩

/-- **Some blank answers are left out**: at every id the answer has stayed as it is, or it is gone
and was blank, if it was there at all. -/
def LeavesOutBlanks (answers fewer : Answers) : Prop :=
  ∀ id, fewer.get? id = answers.get? id ∨ (fewer.get? id = none ∧ answers.given? id = none)

theorem get?_asTexts (answers : Answers) (id : ItemId) :
    answers.asTexts.get? id = (answers.get? id).map Json.asText :=
  Members.lookup_map Json.asText id.text answers.members

theorem textsAt_eq_said (answers : Answers) (id : ItemId) :
    answers.textsAt id = (answers.get? id).elim [] Json.said := by
  unfold textsAt given?
  cases answers.get? id with
  | none => rfl
  | some value =>
    rw [Option.filter_some]
    cases hblank : value.isBlank with
    | true => simp [Json.said, hblank]
    | false => simp [Json.said, hblank]

/-- **Answers say the same as their texts.** -/
theorem textsAt_asTexts (answers : Answers) (id : ItemId) :
    answers.asTexts.textsAt id = answers.textsAt id := by
  rw [textsAt_eq_said, textsAt_eq_said, get?_asTexts]
  cases answers.get? id with
  | none => rfl
  | some value => exact value.said_asText

theorem LeavesOutBlanks.textsAt_eq {answers fewer : Answers} (h : answers.LeavesOutBlanks fewer)
    (id : ItemId) : fewer.textsAt id = answers.textsAt id := by
  rcases h id with hsame | ⟨hgone, hblank⟩
  · exact textsAt_congr hsame
  · have hopen : fewer.given? id = none := by
      unfold given?
      rw [hgone]
      rfl
    rw [textsAt_of_open hopen, textsAt_of_open hblank]

end Answers

/-! ### The effect of texts -/

theorem saySame_of_textsAt {form : Form} {answers answers' : Answers}
    (h : ∀ id, answers.textsAt id = answers'.textsAt id) : SaySame form answers answers' where
  triggers := fun _ _ id _ => h id
  shown := fun id _ => h id

/-- **Only the texts of answers count.** The answers as texts have the same effect on a form as the
answers themselves, and so have the texts without some or all of those that are blank. -/
theorem only_texts_count (form : Form) (answers : Answers) :
    SameEffect form answers answers.asTexts ∧
      ∀ fewer, answers.asTexts.LeavesOutBlanks fewer → SameEffect form answers fewer := by
  refine ⟨?_, fun fewer h => ?_⟩
  · exact (saySame_of_textsAt fun id => (answers.textsAt_asTexts id).symm).sameEffect
  · refine (saySame_of_textsAt fun id => ?_).sameEffect
    rw [h.textsAt_eq, answers.textsAt_asTexts]

/-- Answers to the bundled form in odd shapes: a whole double, a list with a null, a list of nothing
but a null, and an object. -/
def oddAnswers : Answers :=
  ⟨[("3", .num (.double ⟨false, 1 <<< 52, -47, by decide⟩)), ("7", .arr [.str "73", .null]),
    ("9", .arr [.null]), ("x", .obj [("a", .bool true)])]⟩

/-- What is left of their texts without the blank one. -/
def oddTexts : Answers :=
  ⟨[("3", .str "32"), ("7", .arr [.str "73"]), ("x", .str "\x7b\"a\":true\x7d")]⟩

/-- Odd answers have the same effect as the plain texts that they come to. -/
theorem only_texts_count_odd :
    oddAnswers.asTexts.LeavesOutBlanks oddTexts ∧
      SameEffect Service.bundledForm oddAnswers oddTexts := by
  have hleft : oddAnswers.asTexts.LeavesOutBlanks oddTexts := by
    intro id
    have htexts : oddAnswers.asTexts = ⟨[("3", .str "32"), ("7", .arr [.str "73"]), ("9", .arr []),
        ("x", .str "\x7b\"a\":true\x7d")]⟩ := rfl
    rw [htexts]
    by_cases hnine : id.text = "9"
    · refine .inr ⟨?_, ?_⟩
      · simp [oddTexts, Answers.get?, Members.lookup, hnine]
      · simp [Answers.given?, Answers.get?, Members.lookup, hnine, Json.isBlank]
    · exact .inl (by simp [oddTexts, Answers.get?, Members.lookup, hnine])
  exact ⟨hleft, (only_texts_count _ _).2 _ hleft⟩

end Questionnaire
