import Questionnaire.Interview.Reply
import Questionnaire.Proofs.Interview.Sheet
import Questionnaire.Proofs.Validation.Check

/-! # What a reply gives

A reply to a question of the sheet is checked against what the sheet tells of it. That is enough for
validation to find nothing wrong with the answer afterwards (`Describes.readReply`): chosen ids are
those of options, a typed number is a number. Dates are the exception, since a reply to a question
for a date may be any text; nothing is wrong with its kind, but its form is left to validation. -/

namespace Questionnaire.Interview

/-- **The sheet tells the truth about a question**: its id, kind and demands, and no option that the
question does not have. -/
structure Describes (sq : SheetQuestion) (q : Question) : Prop where
  id : sq.id = q.id.text
  kind : sq.kind = q.kind
  required : sq.required = q.required
  multiple : sq.multiple = true → q.allowMultiple = true
  options : ∀ o ∈ sq.options, q.offers o.id = true

theorem describes_ofPreview (node : Node) (visibility : VisibilityMap) (answers : Answers)
    (labels : Labels) :
    Describes (.ofPreview (.ofNode node visibility answers labels)) node.question where
  id := rfl
  kind := rfl
  required := rfl
  multiple := by
    simp only [SheetQuestion.ofPreview, PreviewQuestion.ofNode, Question.isMultiSelect,
      Bool.and_eq_true]
    exact fun h => h.2.2
  options := by
    intro o ho
    simp only [SheetQuestion.ofPreview] at ho
    split at ho
    · obtain ⟨c, hc, rfl⟩ := List.mem_map.mp ho
      have hmem : c ∈ node.question.options := List.mem_mergeSort.mp hc
      exact List.any_eq_true.mpr ⟨c, hmem, by simp⟩
    · cases ho

/-! ### Choices -/

theorem optionNamed?_mem {options : List PreviewOption} {token id : String}
    (h : optionNamed? options token = some id) : ∃ o ∈ options, o.id = id := by
  unfold optionNamed? at h
  split at h
  · next o ho => exact ⟨o, List.mem_of_find?_eq_some ho, Option.some.inj h⟩
  · obtain ⟨place, -, h⟩ := Option.bind_eq_some_iff.mp h
    obtain ⟨o, ho, rfl⟩ := Option.map_eq_some_iff.mp h
    refine ⟨o, ?_, rfl⟩
    cases place with
    | zero => cases ho
    | succ place => exact List.mem_of_getElem? ho

/-- Only options are selected. -/
theorem select_mem {options : List PreviewOption} {tokens : List String} :
    ∀ {selected ids : List String}, select options selected tokens = .ok ids →
      ∀ id ∈ ids, id ∈ selected ∨ ∃ o ∈ options, o.id = id := by
  induction tokens with
  | nil =>
    intro selected ids h id hid
    cases h
    exact .inl hid
  | cons token tokens ih =>
    intro selected ids h id hid
    rw [select] at h
    split at h
    · cases h
    · next id' hid' =>
      rcases ih h id hid with hmem | hoption
      · split at hmem
        · exact .inl hmem
        · rcases List.mem_append.mp hmem with hmem | hmem
          · exact .inl hmem
          · obtain rfl := List.mem_singleton.mp hmem
            exact .inr (optionNamed?_mem hid')
      · exact .inr hoption

/-! ### Answers -/

section Reply

variable {sq : SheetQuestion} {q : Question} {reply : String} {p : Number → Prop}

/-- **Validation has nothing against the answer**, also when it has been read back. -/
structure Passes (q : Question) (value : Json) : Prop where
  check : q.check value = none
  steady : value.Survives ∨ q.kind = .number ∧ ∃ n, value = .num n

theorem Passes.reread {value : Json} (h : Passes q value) : Passes q value.reread := by
  rcases h.steady with hsurvives | ⟨hkind, n, rfl⟩
  · rw [Json.Survives.reread_eq hsurvives]
    exact h
  · exact ⟨check_num hkind _, .inr ⟨hkind, _, rfl⟩⟩

/-- **What is known of an answer when it is handed in**: it is no more than a list of texts or a
number, and only a date can fail validation. -/
structure Good (p : Number → Prop) (q : Question) (value : Json) : Prop where
  fits : value.Fits p 1
  notNull : value ≠ .null
  passes : Passes q value ∨ q.kind = .date ∧ ∃ s, value = .str s ∧ s ≠ ""

theorem Good.reread (hp : Number.Kept p) {value : Json} (h : Good p q value) :
    Good p q value.reread where
  fits := h.fits.reread hp
  notNull := by
    intro hnull
    cases value with
    | null => exact h.notNull rfl
    | _ => cases hnull
  passes := by
    rcases h.passes with hpasses | ⟨hkind, s, rfl, hs⟩
    · exact .inl hpasses.reread
    · exact .inr ⟨hkind, s, rfl, hs⟩

theorem exists_of_readChoice {value : Json} (h : readChoice sq reply = .ok value) :
    ∃ id ids, select sq.options [] (tokens sq.multiple reply) = .ok (id :: ids) ∧
      value = if sq.multiple then .arr ((id :: ids).map .str) else .str id := by
  unfold readChoice at h
  cases hselect : select sq.options [] (tokens sq.multiple reply) with
  | error reason =>
    rw [hselect] at h
    cases h
  | ok ids =>
    rw [hselect] at h
    cases ids with
    | nil => cases h
    | cons id ids => exact ⟨id, ids, rfl, (Except.ok.inj h).symm⟩

theorem Describes.readChoice (hq : Describes sq q) (hkind : q.kind = .multipleChoice)
    {value : Json} (h : Interview.readChoice sq reply = .ok value) : Good p q value := by
  obtain ⟨id, ids, hselect, rfl⟩ := exists_of_readChoice h
  have hoffers : ∀ id' ∈ id :: ids, q.offers id' = true := by
    intro id' hid
    rcases select_mem hselect id' hid with hmem | ⟨o, ho, rfl⟩
    · cases hmem
    · exact hq.options o ho
  by_cases hmultiple : sq.multiple = true
  · rw [if_pos hmultiple]
    have hallow : q.allowMultiple = true := hq.multiple hmultiple
    have hcheck : ∀ item ∈ (id :: ids).map Json.str, q.checkSelected item = none := by
      intro item hitem
      obtain ⟨id', hid, rfl⟩ := List.mem_map.mp hitem
      exact checkSelected_str (hoffers id' hid)
    have hfits : ∀ p, (Json.arr ((id :: ids).map .str)).Fits p 1 :=
      fun p => .arr_map fun id' _ => (.str id' : Json.Fits p 0 _)
    refine ⟨hfits p, nofun, .inl ⟨?_, .inl (hfits _).numbers⟩⟩
    rw [check_several hkind hallow]
    exact List.findSome?_eq_none_iff.mpr hcheck
  · rw [if_neg hmultiple]
    refine ⟨.str id, nofun, .inl ⟨?_, .inl (.str id)⟩⟩
    rw [check_choice hkind]
    exact checkSelected_str (hoffers id (by simp))

/-- If the line writes a number, that has the property. -/
abbrev WritesOnly (p : Number → Prop) (line : String) : Prop :=
  ∀ n ∈ Number.readNumber? (Text.trim line), p n

/-- A reply holds no numbers but the one that is typed. -/
theorem all_readReply {line : String} (hline : WritesOnly p line) {value : Json}
    (h : Interview.readReply sq line = .ok value) :
    value.All p := by
  unfold Interview.readReply readTrimmed at h
  split at h
  · split at h
    · cases h
    · obtain rfl := Except.ok.inj h
      exact .null
  · split at h
    · obtain ⟨id, ids, -, rfl⟩ := exists_of_readChoice h
      split
      · exact (Json.Fits.arr_map fun id _ => .str id : Json.Fits _ 1 _).numbers
      · exact .str id
    · split at h
      · next n hn =>
        obtain rfl := Except.ok.inj h
        exact .num (hline n hn)
      · cases h
    · obtain rfl := Except.ok.inj h
      exact .str _
    · obtain rfl := Except.ok.inj h
      exact .str _
    · obtain rfl := Except.ok.inj h
      exact .str _

/-- **What a line is read as**: a skip if nothing is required, or a good answer. -/
theorem Describes.readReply (hq : Describes sq q) (hsection : q.isSection = false) {line : String}
    (hline : WritesOnly p line) {value : Json} (h : Interview.readReply sq line = .ok value) :
    value = .null ∧ q.required = false ∨ Good p q value := by
  have hvalue := all_readReply hline h
  unfold Interview.readReply readTrimmed at h
  by_cases hempty : (Text.trim line).isEmpty = true
  · rw [if_pos hempty, hq.required] at h
    left
    by_cases hrequired : q.required = true
    · rw [if_pos hrequired] at h
      cases h
    · rw [if_neg hrequired] at h
      exact ⟨(Except.ok.inj h).symm, by simpa using hrequired⟩
  · rw [if_neg hempty, hq.kind] at h
    right
    cases hkind : q.kind with
    | multipleChoice =>
      rw [hkind] at h
      exact hq.readChoice hkind h
    | number =>
      rw [hkind] at h
      simp only [] at h
      split at h
      · next n _ =>
        obtain rfl := Except.ok.inj h
        exact ⟨⟨hvalue, .num n⟩, nofun, .inl ⟨check_num hkind n, .inr ⟨hkind, n, rfl⟩⟩⟩
      · cases h
    | freeText =>
      rw [hkind] at h
      obtain rfl := Except.ok.inj h
      exact ⟨.str _, nofun, .inl ⟨check_str_of_freeText hkind _, .inl (.str _)⟩⟩
    | date =>
      rw [hkind] at h
      obtain rfl := Except.ok.inj h
      exact ⟨.str _, nofun, .inr ⟨hkind, _, rfl, by simpa using hempty⟩⟩
    | heading =>
      simp [Question.isSection, QuestionKind.isSection, hkind] at hsection

end Reply

end Questionnaire.Interview
