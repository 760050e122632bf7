import Questionnaire.Interview.Prompt
import Questionnaire.Proofs.Document.Agreement
import Questionnaire.Proofs.Interview.Asked
import Questionnaire.Proofs.Outline.Closure

/-! # The sheet and the preview

The writer of the preview and the reader of the sheet have only the names of members in common: some
members are left out for some questions, and missing ones take their usual values. Still the sheet
tells of every question what the preview does (`Sheet.Tells`), so that the question that is asked is
the first one of the preview that waits for an answer (`PreviewQuestion.waits`), and its place lies
among those that there are (`sheet_tells_preview`). Counts are 64-bit words. No question stands as
deep as there are questions, so all counts are in range if the length of the form is, which is a
64-bit word itself. -/

namespace Questionnaire.Interview

open Outline

/-- **The sheet tells of the question** what the preview does. Only choices have options, and an
answer is told if its text is not empty. -/
structure SheetQuestion.Tells (sq : SheetQuestion) (q : PreviewQuestion) : Prop where
  id : sq.id = q.id
  text : sq.text = q.text
  description : sq.description = q.description
  placeholder : sq.placeholder = q.placeholder
  kind : sq.kind = q.kind
  depth : sq.depth = q.depth
  required : sq.required = q.required
  multiple : sq.multiple = q.multiple
  visible : sq.visible = q.visible
  options : sq.options = if q.kind = .multipleChoice then q.options else []
  displayValue : sq.displayValue = if q.displayValue = "" then none else some q.displayValue

/-- **The sheet tells what the preview does**, of each question and in the same order. -/
structure Sheet.Tells (sheet : Sheet) (preview : Preview) : Prop where
  title : sheet.title = preview.formTitle
  help : sheet.help = preview.help
  status : sheet.status = preview.status
  progress : sheet.progress = preview.progress
  questions : List.Forall₂ SheetQuestion.Tells sheet.questions preview.questions

/-- The question is visible, can be answered and is not, and was not skipped. -/
def waits (skipped : List String) (q : PreviewQuestion) : Bool :=
  q.visible && q.isLeaf && !q.isAnswered && !skipped.contains q.id

/-! ### Counts in range -/

theorem recount_of_lt {n : Nat} (h : n < 1 <<< 64) : recount n = n := by
  have range : Number.IntegerRange n := by
    unfold Number.IntegerRange
    omega
  have hcount : Json.ofNat n = .num (.integer n range) := by
    unfold Json.ofNat
    rw [Number.ofInt?_of_range range]
    rfl
  unfold recount
  rw [hcount, Json.nat?, if_pos (Int.natCast_nonneg n)]
  rfl

-- a count is not to be computed in order to find that two mentions of it are the same
attribute [local irreducible] recount

theorem length_preview_questions_le (form : Form) (answers : Answers) :
    (form.preview answers).questions.length ≤ form.questions.length := by
  change ((ofQuestions form.questions).reachable.map _).length ≤ _
  rw [List.length_map]
  exact length_walk_le form.questions _

theorem depth_lt_of_mem_preview_questions {form : Form} {answers : Answers} {q : PreviewQuestion}
    (h : q ∈ (form.preview answers).questions) : q.depth < form.questions.length := by
  obtain ⟨node, hnode, rfl⟩ := List.mem_map.mp h
  rw [reachable, walk_eq_map] at hnode
  simp only [List.mem_map, List.mem_filter] at hnode
  obtain ⟨v, ⟨hv, -⟩, rfl⟩ := hnode
  exact depth_lt_of_mem_visits hv

theorem total_progressOf_le (questions : List PreviewQuestion) :
    (Preview.progressOf questions).total ≤ questions.length :=
  List.length_filter_le _ _

theorem answered_progressOf_le (questions : List PreviewQuestion) :
    (Preview.progressOf questions).answered ≤ (Preview.progressOf questions).total :=
  List.length_filter_le _ _

/-- While a question waits, fewer questions are answered than there are. -/
theorem answered_progressOf_lt {questions : List PreviewQuestion} {q : PreviewQuestion}
    (hq : q ∈ questions) {skipped : List String} (hwaits : waits skipped q = true) :
    (Preview.progressOf questions).answered < (Preview.progressOf questions).total := by
  simp only [waits, Bool.and_eq_true, Bool.not_eq_true'] at hwaits
  obtain ⟨⟨⟨hvisible, hleaf⟩, hopen⟩, -⟩ := hwaits
  have hmem : q ∈ Preview.visibleLeaves questions :=
    List.mem_filter.mpr ⟨hq, by rw [hvisible, hleaf]; rfl⟩
  refine lt_of_le_of_ne (answered_progressOf_le questions) fun hall => ?_
  have hfilter := List.filter_eq_self.mp (List.filter_sublist.eq_of_length hall)
  rw [hfilter q hmem] at hopen
  cases hopen

/-- The place behind fewer questions than there are lies among those that there are. -/
theorem placeAfter_mem {answered total : Nat} (h : answered < total) (htotal : total < 1 <<< 64) :
    1 ≤ placeAfter answered ∧ placeAfter answered ≤ total := by
  unfold placeAfter
  rw [Nat.mod_eq_of_lt (by omega)]
  omega

/-! ### What is told -/

section Telling
variable {form : Form} {answers : Answers}

theorem tells_ofPreview (hlength : form.questions.length < 1 <<< 64) {q : PreviewQuestion}
    (hq : q ∈ (form.preview answers).questions) : (SheetQuestion.ofPreview q).Tells q := by
  have hdepth := depth_lt_of_mem_preview_questions hq
  obtain ⟨node, -, rfl⟩ := List.mem_map.mp hq
  refine ⟨rfl, rfl, rfl, rfl, rfl, recount_of_lt (by omega), rfl, ?_, rfl, rfl, ?_⟩
  · change (decide (node.question.kind = .multipleChoice) && node.question.isMultiSelect) =
      node.question.isMultiSelect
    by_cases hkind : node.question.kind = .multipleChoice <;> simp [Question.isMultiSelect, hkind]
  · exact displayValue_ofPreview node _ answers _

theorem Sheet.tells_ofPreview (answers : Answers) (hlength : form.questions.length < 1 <<< 64) :
    (Sheet.ofPreview (form.preview answers)).Tells (form.preview answers) := by
  have hquestions := length_preview_questions_le form answers
  have htotal := total_progressOf_le (form.preview answers).questions
  have hanswered := answered_progressOf_le (form.preview answers).questions
  refine ⟨rfl, rfl, rfl, ?_, ?_⟩
  · change Progress.mk (recount (Preview.progressOf (form.preview answers).questions).answered)
      (recount (Preview.progressOf (form.preview answers).questions).total) =
        Preview.progressOf (form.preview answers).questions
    rw [recount_of_lt (by omega), recount_of_lt (by omega)]
  · change List.Forall₂ _ ((form.preview answers).questions.map SheetQuestion.ofPreview) _
    rw [List.forall₂_map_left_iff, List.forall₂_same]
    exact fun q hq => Interview.tells_ofPreview hlength hq

/-- What waits is open on the sheet. -/
theorem SheetQuestion.Tells.isOpen_eq {sq : SheetQuestion} {q : PreviewQuestion} (h : sq.Tells q)
    (skipped : List String) : Sheet.isOpen skipped sq = waits skipped q := by
  have hdisplay : sq.displayValue.isNone = !q.isAnswered := by
    rw [h.displayValue, PreviewQuestion.isAnswered, Bool.not_not]
    by_cases hempty : q.displayValue = "" <;> simp [hempty]
  unfold Sheet.isOpen waits PreviewQuestion.isLeaf
  rw [h.visible, h.kind, hdisplay, h.id]

/-- Of two lists that go together, what is found in the one goes with what is found in the
other. -/
theorem rel_find?_of_forall₂ {sqs : List SheetQuestion} {qs : List PreviewQuestion}
    (h : List.Forall₂ SheetQuestion.Tells sqs qs) (skipped : List String) :
    Option.Rel SheetQuestion.Tells (sqs.find? (Sheet.isOpen skipped))
      (qs.find? (waits skipped)) := by
  induction h with
  | nil => exact .none
  | @cons sq q sqs qs htells _ ih =>
    rw [List.find?_cons, List.find?_cons, htells.isOpen_eq]
    cases waits skipped q with
    | true => exact .some htells
    | false => exact ih

end Telling

/-- **The sheet tells what the preview does.** It can be read off the preview of any form and any
answers, and it tells of every question what the preview does. Whatever was skipped, the first
question of the preview that waits is asked, and its place lies among those that there are. -/
theorem sheet_tells_preview (form : Form) (answers : Answers)
    (hlength : form.questions.length < 1 <<< 64) :
    ∃ sheet, Sheet.ofJson (form.preview answers).toJson = .ok sheet ∧
      sheet.Tells (form.preview answers) ∧
      ∀ skipped, Option.Rel SheetQuestion.Tells (sheet.next? skipped)
          ((form.preview answers).questions.find? (waits skipped)) ∧
        ∀ sq ∈ sheet.next? skipped,
          1 ≤ (Prompt.ofQuestion sq sheet.progress).index ∧
            (Prompt.ofQuestion sq sheet.progress).index ≤
              (Prompt.ofQuestion sq sheet.progress).total := by
  have hread := Sheet.ofJson_passed (form.preview answers) passage_id
  have htells := Sheet.tells_ofPreview answers hlength
  rw [id_eq] at hread
  refine ⟨_, hread, htells, fun skipped => ?_⟩
  have hfound := rel_find?_of_forall₂ htells.questions skipped
  refine ⟨hfound, fun sq hsq => ?_⟩
  obtain ⟨q, hq⟩ : ∃ q, (form.preview answers).questions.find? (waits skipped) = some q := by
    cases hq : (form.preview answers).questions.find? (waits skipped) with
    | some q => exact ⟨q, rfl⟩
    | none =>
      rw [show (Sheet.ofPreview (form.preview answers)).questions.find? (Sheet.isOpen skipped) =
        some sq from hsq, hq] at hfound
      cases hfound
  have htotal : (form.preview answers).progress.total < 1 <<< 64 :=
    ((total_progressOf_le _).trans (length_preview_questions_le form answers)).trans_lt hlength
  have hbefore := answered_progressOf_lt (List.mem_of_find?_eq_some hq)
    (List.find?_some hq : waits skipped q = true)
  change 1 ≤ placeAfter (Sheet.ofPreview (form.preview answers)).progress.answered ∧
    placeAfter (Sheet.ofPreview (form.preview answers)).progress.answered ≤
      (Sheet.ofPreview (form.preview answers)).progress.total
  rw [htells.progress]
  exact placeAfter_mem hbefore htotal

/-- The questions of the bundled form with an answer to the first one: it is the second one of four
that waits. -/
theorem questions_preview_bundledForm :
    ((Service.bundledForm.preview ⟨[("2", .str "Ann")]⟩).questions.find? (waits [])).map (·.id) =
        some "3" ∧
      (Service.bundledForm.preview ⟨[("2", .str "Ann")]⟩).progress = ⟨1, 4⟩ := by
  have hall := @Service.walk_bundledForm (fun _ => true) true true (by decide)
  have hseen := @Service.walk_bundledForm
    (fun q => isVisible q Service.bundledForm.rules ⟨[("2", .str "Ann")]⟩) false false (by decide)
  unfold Form.preview Form.effectiveVisibility reachable
  rw [visibleNodes_eq, hall, hseen]
  decide +kernel

/-- The bundled form: with an answer to the first question the next one is asked, as the second one
of four. -/
theorem sheet_tells_preview_bundled :
    Service.bundledForm.questions.length < 1 <<< 64 ∧
      ∃ sheet, Sheet.ofJson (Service.bundledForm.preview ⟨[("2", .str "Ann")]⟩).toJson = .ok sheet ∧
        sheet.Tells (Service.bundledForm.preview ⟨[("2", .str "Ann")]⟩) ∧
        ∃ sq ∈ sheet.next? [], sq.id = "3" ∧
          Prompt.index (.ofQuestion sq sheet.progress) = 2 ∧
          Prompt.total (.ofQuestion sq sheet.progress) = 4 := by
  have hlength : Service.bundledForm.questions.length < 1 <<< 64 := by decide
  obtain ⟨sheet, hread, htells, hnext⟩ :=
    sheet_tells_preview Service.bundledForm ⟨[("2", .str "Ann")]⟩ hlength
  obtain ⟨hwaits, hprogress⟩ := questions_preview_bundledForm
  obtain ⟨q, hq, hid⟩ := Option.map_eq_some_iff.mp hwaits
  have hasked := (hnext []).1
  rw [hq] at hasked
  rcases hsheet : sheet.next? [] with _ | sq
  · rw [hsheet] at hasked
    cases hasked
  · rw [hsheet] at hasked
    obtain ⟨hsq⟩ := hasked
    refine ⟨hlength, sheet, hread, htells, sq, hsheet, hsq.id.trans hid, ?_⟩
    rw [htells.progress, hprogress]
    exact ⟨rfl, rfl⟩

end Questionnaire.Interview
