import Questionnaire.Proofs.Document.Texts
import Questionnaire.Proofs.Visibility.Policy

/-! # What answers say

Rules and displayed texts take the same from an answer: the keys that it puts forward, and none when
it is blank (`Answers.textsAt`). A rule matches when the option is among them
(`Answers.selects_eq_contains`), and a question displays them in the reading of its kind
(`Question.displayValue_eq_textsAt`). So two sets of answers that say the same at every trigger show
the same questions (`isVisible_of_textsAt`), whatever the values are that say it. -/

namespace Questionnaire

/-- The texts that the answer to a question puts forward; a blank one has none. -/
def Answers.textsAt (answers : Answers) (id : ItemId) : List String :=
  (answers.given? id).elim [] keysOf

section Texts
variable {answers answers' : Answers} {id : ItemId}

theorem Answers.textsAt_of_given {value : Json} (h : answers.given? id = some value) :
    answers.textsAt id = keysOf value := by
  unfold textsAt
  rw [h]
  rfl

theorem Answers.textsAt_of_open (h : answers.given? id = none) : answers.textsAt id = [] := by
  unfold textsAt
  rw [h]
  rfl

/-- What is said at an id depends on the value there alone. -/
theorem Answers.textsAt_congr (h : answers.get? id = answers'.get? id) :
    answers.textsAt id = answers'.textsAt id := by
  unfold textsAt given?
  rw [h]

/-! ### Rules -/

/-- **An answer selects the options that it names.** -/
theorem Answers.selects_eq_contains (answers : Answers) (question option : ItemId) :
    answers.selects question option = (answers.textsAt question).contains option.text := by
  unfold selects
  cases hgiven : answers.given? question with
  | none => simp [textsAt_of_open hgiven]
  | some value => simp [textsAt_of_given hgiven]

theorem Rule.fires_of_textsAt {r : Rule}
    (h : ∀ question, r.trigger = some question →
      answers.textsAt question = answers'.textsAt question) :
    r.Fires answers ↔ r.Fires answers' := by
  refine Rule.fires_of_selects fun question htrigger option => ?_
  rw [Answers.selects_eq_contains, Answers.selects_eq_contains, h question htrigger]

/-- **Visibility reads the triggers alone**, and of these only what the answers say. -/
theorem isVisible_of_textsAt {rules : List Rule}
    (h : ∀ r ∈ rules, ∀ question, r.trigger = some question →
      answers.textsAt question = answers'.textsAt question) (q : Question) :
    isVisible q rules answers = isVisible q rules answers' :=
  isVisible_of_fires_iff (fun r hr => Rule.fires_of_textsAt (h r hr)) q

/-! ### Displayed texts -/

namespace Question

variable {q : Question} {labels labels' : Labels}

theorem displayValue_of_section (hsection : q.isSection = true) (answer : Option Json) :
    q.displayValue answer labels = "" := by
  have hkind : q.kind = .heading := by
    unfold isSection at hsection
    cases hq : q.kind with
    | heading => rfl
    | _ => rw [hq] at hsection; cases hsection
  unfold displayValue answerText
  rw [hkind]
  split <;> rfl

/-- **A question displays what its answer says**, each text in the reading of its kind. -/
theorem displayValue_eq_textsAt (hsection : q.isSection = false) :
    q.displayValue (answers.get? q.id) labels =
      ", ".intercalate ((answers.textsAt q.id).map (q.reading labels)) := by
  cases hgiven : answers.given? q.id with
  | none => simp [displayValue_of_open hgiven, Answers.textsAt_of_open hgiven]
  | some value =>
    rw [displayValue_of_given hgiven, answerText_eq hsection, Answers.textsAt_of_given hgiven]

theorem reading_of_label (h : ∀ key, labels.label key = labels'.label key) :
    q.reading labels = q.reading labels' := by
  funext key
  simp only [reading, h]

/-- The same is displayed for answers that say the same, by labels that read the same. -/
theorem displayValue_congr (hlabels : ∀ key, labels.label key = labels'.label key)
    (htexts : answers.textsAt q.id = answers'.textsAt q.id) :
    q.displayValue (answers.get? q.id) labels = q.displayValue (answers'.get? q.id) labels' := by
  cases hsection : q.isSection with
  | true => rw [displayValue_of_section hsection, displayValue_of_section hsection]
  | false =>
    rw [displayValue_eq_textsAt hsection, displayValue_eq_textsAt hsection, htexts,
      reading_of_label hlabels]

end Question

end Texts

end Questionnaire
