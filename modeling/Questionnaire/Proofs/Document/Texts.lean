import Questionnaire.Document.Basic

/-! # The texts of an answer

An answer puts keys forward: a list those of its elements that are not null, any other value its own.
A question reads each key as a text, a choice as the label of an option (`Question.reading`), and
displays these texts with commas between them (`answerText_eq`). So an answer that is not blank may
still be displayed as nothing: when it is a list of nulls, and when it puts a single key forward that
is read as the empty text (`Question.Silent`). -/

namespace Questionnaire

/-! ### Joining texts -/

theorem intercalate_eq_empty_iff {texts : List String} :
    ", ".intercalate texts = "" ↔ texts = [] ∨ texts = [""] := by
  rcases texts with _ | ⟨text, _ | ⟨second, rest⟩⟩
  · simp
  · simp
  · -- two texts have a comma between them
    simp [String.intercalate_cons_cons]

namespace Question

variable {q : Question} {labels : Labels} {value : Json}

/-- What the question makes of a key. -/
def reading (q : Question) (labels : Labels) (key : String) : String :=
  if q.kind = .multipleChoice then labels.label key else key

/-- **The answer is displayed as nothing**: it puts no key forward, or one that reads as the empty
text. -/
def Silent (q : Question) (labels : Labels) (value : Json) : Prop :=
  Answers.keysOf value = [] ∨
    ∃ key, Answers.keysOf value = [key] ∧ q.reading labels key = ""

theorem reading_choice (h : q.kind = .multipleChoice) : q.reading labels = labels.label := by
  funext key
  rw [reading, if_pos h]

theorem reading_other (h : q.kind ≠ .multipleChoice) : q.reading labels = fun key => key := by
  funext key
  rw [reading, if_neg h]

/-! ### What is displayed -/

theorem map_labelOf (items : List Json) :
    (items.filter fun item => item.key?.isSome).map labels.labelOf =
      (items.filterMap Json.key?).map labels.label := by
  induction items with
  | nil => rfl
  | cons item items ih =>
    cases hkey : item.key? with
    | none => simp [hkey, ih]
    | some key => simp [hkey, ih, Labels.labelOf]

theorem answerText_choice (hkind : q.kind = .multipleChoice) :
    q.answerText labels value = ", ".intercalate ((Answers.keysOf value).map labels.label) := by
  unfold answerText
  rw [hkind]
  cases value with
  | arr items =>
    simp only [Answers.keysOf]
    rw [map_labelOf]
  | null => rfl
  | _ => simp [Answers.keysOf, Labels.labelOf, Json.key?]

theorem answerText_other (hkind : q.kind ≠ .multipleChoice) (hsection : q.isSection = false) :
    q.answerText labels value = ", ".intercalate (Answers.keysOf value) := by
  unfold answerText
  unfold isSection at hsection
  cases hq : q.kind with
  | multipleChoice => exact absurd hq hkind
  | heading => rw [hq] at hsection; cases hsection
  | _ =>
    cases value with
    | arr items => rfl
    | null => rfl
    | _ => simp [Answers.keysOf, Json.key?]

/-- **What is displayed are the texts that the keys are read as**, with commas between them. -/
theorem answerText_eq (hsection : q.isSection = false) :
    q.answerText labels value =
      ", ".intercalate ((Answers.keysOf value).map (q.reading labels)) := by
  by_cases hkind : q.kind = .multipleChoice
  · rw [answerText_choice hkind, reading_choice hkind]
  · rw [answerText_other hkind hsection, reading_other hkind, List.map_id']

theorem answerText_eq_empty_iff (hsection : q.isSection = false) :
    q.answerText labels value = "" ↔ q.Silent labels value := by
  rw [answerText_eq hsection, intercalate_eq_empty_iff, List.map_eq_nil_iff,
    List.map_eq_singleton_iff]
  exact Iff.rfl

theorem displayValue_of_given {answers : Answers} (h : answers.given? q.id = some value) :
    q.displayValue (answers.get? q.id) labels = q.answerText labels value := by
  unfold displayValue
  unfold Answers.given? at h
  rw [h]

theorem displayValue_of_open {answers : Answers} (h : answers.given? q.id = none) :
    q.displayValue (answers.get? q.id) labels = "" := by
  unfold displayValue
  unfold Answers.given? at h
  rw [h]

/-- **Nothing is displayed** when there is no answer or a silent one. -/
theorem displayValue_eq_empty_iff (hsection : q.isSection = false) {answers : Answers} :
    q.displayValue (answers.get? q.id) labels = "" ↔
      answers.given? q.id = none ∨
        ∃ value, answers.given? q.id = some value ∧ q.Silent labels value := by
  cases hgiven : answers.given? q.id with
  | none => simp [displayValue_of_open hgiven]
  | some value => simp [displayValue_of_given hgiven, answerText_eq_empty_iff hsection]

end Question

end Questionnaire
