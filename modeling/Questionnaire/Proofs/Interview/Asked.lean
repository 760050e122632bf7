import Questionnaire.Proofs.Document.Texts
import Questionnaire.Proofs.Interview.Sound

/-! # The question that is asked

An interviewer asks the first question on the sheet that is shown, is no section, has no answer
displayed and was not skipped. On the sheet of some answers that is a question that the respondent
sees, with nothing to display of its answer (`exists_of_asked`). When there is none, everything that
is seen and required is answered (`isAnswered_of_asked_eq_none`). -/

namespace Questionnaire.Interview

open Outline

section Asked
variable {form : Form} {answers : Answers}

/-- Only what is answered has a text, so leaving out the text of what is not answered loses
nothing. -/
theorem displayValue_ofPreview (node : Node) (visibility : VisibilityMap) (answers : Answers)
    (labels : Labels) :
    (SheetQuestion.ofPreview (.ofNode node visibility answers labels)).displayValue =
      if node.question.displayValue (answers.get? node.question.id) labels = "" then none
      else some (node.question.displayValue (answers.get? node.question.id) labels) := by
  unfold SheetQuestion.ofPreview PreviewQuestion.ofNode
  cases hget : answers.get? node.question.id with
  | none =>
    have hopen : answers.given? node.question.id = none := by unfold Answers.given?; rw [hget]; rfl
    have hempty : node.question.displayValue (answers.get? node.question.id) labels = "" :=
      Question.displayValue_of_open hopen
    rw [hget] at hempty
    simp [hget, hempty]
  | some value => by_cases hempty : node.question.displayValue (some value) labels = "" <;>
      simp [hget, hempty]

/-- On the sheet, a question has no answer when the text of its answer is empty. -/
theorem displayValue_ofPreview_eq_none (node : Node) (visibility : VisibilityMap)
    (answers : Answers) (labels : Labels) :
    (SheetQuestion.ofPreview (.ofNode node visibility answers labels)).displayValue = none ↔
      node.question.displayValue (answers.get? node.question.id) labels = "" := by
  rw [displayValue_ofPreview]
  simp

/-- **What is asked is a question that the respondent sees** and whose answer is not displayed, and
the sheet tells the truth of it. -/
theorem exists_of_asked (hids : form.DistinctIds) {skipped : List String} {sq : SheetQuestion}
    (h : (Sheet.ofPreview (form.preview answers)).next? skipped = some sq) :
    ∃ q, Describes sq q ∧ Seen form answers q ∧ q.isSection = false ∧
      q.displayValue (answers.get? q.id) (.ofForm form) = "" := by
  have hmem := List.mem_of_find?_eq_some h
  have hopen : Sheet.isOpen skipped sq = true := List.find?_some h
  obtain ⟨pq, hpq, rfl⟩ := List.mem_map.mp hmem
  obtain ⟨node, hnode, rfl⟩ := List.mem_map.mp hpq
  simp only [Sheet.isOpen, Bool.and_eq_true, Bool.not_eq_true'] at hopen
  obtain ⟨⟨⟨hvisible, hsection⟩, hdisplay⟩, -⟩ := hopen
  refine ⟨node.question, describes_ofPreview node _ _ _, seen_of_node hids hnode hvisible,
    hsection, ?_⟩
  rwa [Option.isNone_iff_eq_none, displayValue_ofPreview_eq_none] at hdisplay

/-- A date that is answered is displayed. -/
theorem get?_of_displayValue_eq_empty {p : Number → Prop} (hsound : Sound p form answers)
    {q : Question} (hq : q ∈ form.questions) (hkind : q.kind = .date)
    (h : q.displayValue (answers.get? q.id) (.ofForm form) = "") : answers.get? q.id = none := by
  cases hget : answers.get? q.id with
  | none => rfl
  | some value =>
    obtain ⟨s, rfl, hs⟩ := hsound.date hq hkind hget
    have hsection : q.isSection = false := by rw [Question.isSection, hkind]; rfl
    have hgiven : answers.given? q.id = some (.str s) := by
      unfold Answers.given?
      rw [hget]
      simp [Json.isBlank, hs]
    rcases (Question.displayValue_eq_empty_iff hsection).mp h with hopen | ⟨value, hvalue, hsilent⟩
    · rw [hgiven] at hopen
      cases hopen
    · obtain rfl := Option.some.inj (hgiven.symm.trans hvalue)
      rcases hsilent with hnone | ⟨key, hkey, hempty⟩
      · cases hnone
      · obtain rfl := (List.cons.inj hkey).1
        rw [Question.reading_other (by rw [hkind]; decide)] at hempty
        exact absurd hempty hs

/-- **When nothing is asked, what is seen and required is answered.** -/
theorem isAnswered_of_asked_eq_none (hids : form.DistinctIds) {skipped : List String}
    (hskipped : ∀ id ∈ skipped, ∃ q ∈ form.questions, q.id.text = id ∧ q.required = false)
    (h : (Sheet.ofPreview (form.preview answers)).next? skipped = none) {q : Question}
    (hseen : Seen form answers q) (hsection : q.isSection = false) (hrequired : q.required = true) :
    answers.isAnswered q.id = true := by
  obtain ⟨node, hnode, rfl, hvisible⟩ := exists_node_of_seen hids hseen
  let pq := PreviewQuestion.ofNode node (form.effectiveVisibility answers) answers (.ofForm form)
  have hclosed : Sheet.isOpen skipped (.ofPreview pq) = false := by
    have hall := List.find?_eq_none.mp h (.ofPreview pq)
      (List.mem_map_of_mem (List.mem_map_of_mem hnode))
    simpa using hall
  have hskip : skipped.contains node.question.id.text = false := by
    rw [Bool.eq_false_iff, ne_eq, List.contains_iff_mem]
    intro hmem
    obtain ⟨q, hq, hid, hoptional⟩ := hskipped _ hmem
    rw [hids.eq_of_id hq hseen.mem (ItemId.ext hid), hrequired] at hoptional
    cases hoptional
  have hkind : pq.kind.isSection = false := hsection
  -- so only an answer can keep the question from being open
  have hdisplay : (SheetQuestion.ofPreview pq).displayValue ≠ none := by
    intro hnone
    have hopen : Sheet.isOpen skipped (.ofPreview pq) = true := by
      unfold Sheet.isOpen
      rw [hnone]
      have hvisible' : (SheetQuestion.ofPreview pq).visible = true := hvisible
      have hkind' : (SheetQuestion.ofPreview pq).kind.isSection = false := hkind
      have hskip' : skipped.contains (SheetQuestion.ofPreview pq).id = false := hskip
      rw [hvisible', hkind', hskip']
      rfl
    rw [hclosed] at hopen
    cases hopen
  rw [ne_eq, displayValue_ofPreview_eq_none] at hdisplay
  unfold Answers.isAnswered
  rw [Option.isSome_iff_ne_none]
  exact fun hnone => hdisplay (Question.displayValue_of_open hnone)

end Asked

end Questionnaire.Interview
