import Questionnaire.Lint
import Questionnaire.Proofs.Document.Texts
import Questionnaire.Proofs.Validation.Report

/-! # Status and what is missing

The preview asks for input while a wanted answer is displayed as nothing, validation misses a wanted
answer while it is blank. An answer may be displayed as nothing without being blank
(`Question.Silent`), and there the two part (`silent_answer_is_asked_for_again`). Everywhere else
they agree: `status_agrees_with_validation` says what the status is worth, silent answers or not. -/

namespace Questionnaire

open Outline

variable {form : Form} {answers : Answers}

/-! ### The next question -/

theorem mem_preview_questions_iff {pq : PreviewQuestion} :
    pq ∈ (form.preview answers).questions ↔
      ∃ node ∈ (ofQuestions form.questions).reachable,
        .ofNode node (form.effectiveVisibility answers) answers (.ofForm form) = pq :=
  List.mem_map

/-- **The next question** is wanted and displayed without an answer. -/
theorem exists_of_nextQuestionId (hids : form.DistinctIds) {id : String}
    (h : (form.preview answers).nextQuestionId = some id) :
    ∃ q, Wanted form answers q ∧
      q.displayValue (answers.get? q.id) (.ofForm form) = "" ∧ q.id.text = id := by
  obtain ⟨pq, hfind, rfl⟩ := Option.map_eq_some_iff.mp h
  have hopen := List.find?_some hfind
  obtain ⟨hmem, hleaf⟩ := List.mem_filter.mp (List.mem_of_find?_eq_some hfind)
  obtain ⟨node, hnode, rfl⟩ := mem_preview_questions_iff.mp hmem
  simp only [Bool.and_eq_true, PreviewQuestion.isLeaf, PreviewQuestion.isAnswered,
    Bool.not_eq_true', Bool.not_eq_false', String.isEmpty_iff] at hopen hleaf
  exact ⟨node.question, ⟨seen_of_node hids hnode hleaf.1, hleaf.2, hopen.1⟩, hopen.2, rfl⟩

/-- There is no next question when all wanted answers are displayed. -/
theorem displayValue_of_nextQuestionId_eq_none (hids : form.DistinctIds)
    (h : (form.preview answers).nextQuestionId = none) {q : Question}
    (hwanted : Wanted form answers q) :
    q.displayValue (answers.get? q.id) (.ofForm form) ≠ "" := by
  obtain ⟨node, hnode, rfl, hvisible⟩ := exists_node_of_seen hids hwanted.seen
  let pq := PreviewQuestion.ofNode node (form.effectiveVisibility answers) answers (.ofForm form)
  have hleaf : (!node.question.kind.isSection) = true := by
    rw [Bool.not_eq_true']
    exact hwanted.leaf
  have hmem : pq ∈ Preview.visibleLeaves (form.preview answers).questions :=
    List.mem_filter.mpr ⟨mem_preview_questions_iff.mpr ⟨node, hnode, rfl⟩,
      Bool.and_eq_true_iff.mpr ⟨hvisible, hleaf⟩⟩
  have hclosed := List.find?_eq_none.mp (Option.map_eq_none_iff.mp h) pq hmem
  intro hempty
  refine hclosed (Bool.and_eq_true_iff.mpr ⟨hwanted.required, ?_⟩)
  rw [PreviewQuestion.isAnswered, Bool.not_not, String.isEmpty_iff]
  exact hempty

theorem status_eq_complete_iff :
    (form.preview answers).status = .complete ↔ (form.preview answers).nextQuestionId = none := by
  unfold Form.preview
  simp only [ite_eq_right_iff, reduceCtorEq, imp_false, Option.not_isSome_iff_eq_none]

theorem status_eq_needInput_iff :
    (form.preview answers).status = .needInput ↔
      ∃ id, (form.preview answers).nextQuestionId = some id := by
  rw [← Option.isSome_iff_exists]
  unfold Form.preview
  simp only [ite_eq_left_iff, reduceCtorEq, imp_false, Bool.not_eq_true, Bool.not_eq_false]

/-! ### Agreement -/

/-- The form is complete when nothing is missing and no wanted answer is silent. -/
theorem status_eq_complete_iff_missing (hids : form.DistinctIds) :
    (form.preview answers).status = .complete ↔
      (form.validate answers).missingRequired = [] ∧
        ∀ q value, Wanted form answers q → answers.given? q.id = some value →
          ¬ q.Silent (.ofForm form) value := by
  rw [status_eq_complete_iff, missingRequired_eq_nil_iff hids]
  constructor
  · intro h
    have hshown : ∀ q, Wanted form answers q →
        ¬ (answers.given? q.id = none ∨
          ∃ value, answers.given? q.id = some value ∧ q.Silent (.ofForm form) value) := by
      intro q hwanted
      rw [← Question.displayValue_eq_empty_iff hwanted.leaf]
      exact displayValue_of_nextQuestionId_eq_none hids h hwanted
    exact ⟨fun q hwanted hopen => hshown q hwanted (.inl hopen),
      fun q value hwanted hgiven hsilent => hshown q hwanted (.inr ⟨value, hgiven, hsilent⟩)⟩
  · rintro ⟨hgiven, hspoken⟩
    rw [Option.eq_none_iff_forall_not_mem]
    intro id hid
    obtain ⟨q, hwanted, hempty, -⟩ := exists_of_nextQuestionId hids hid
    rcases (Question.displayValue_eq_empty_iff hwanted.leaf).mp hempty with hopen | ⟨value, hv, hs⟩
    · exact hgiven q hwanted hopen
    · exact hspoken q value hwanted hv hs

/-- **Status and validation agree but for silent answers.** The form is complete if and only if no
required answer is missing and none that is wanted is silent; otherwise the next question is one
whose answer is missing or silent. So where no wanted answer is silent, the form is complete if and
only if nothing is missing, and the next question is one of those missing. -/
theorem status_agrees_with_validation (form : Form) (hids : form.DistinctIds) (answers : Answers) :
    ((form.preview answers).status = .complete ↔
      (form.validate answers).missingRequired = [] ∧
        ∀ q value, Wanted form answers q → answers.given? q.id = some value →
          ¬ q.Silent (.ofForm form) value) ∧
    ((form.preview answers).status = .needInput →
      ∃ q, Wanted form answers q ∧ (form.preview answers).nextQuestionId = some q.id.text ∧
        (q.id ∈ (form.validate answers).missingRequired ∨
          ∃ value, answers.given? q.id = some value ∧ q.Silent (.ofForm form) value)) ∧
    ((∀ q value, Wanted form answers q → answers.given? q.id = some value →
        ¬ q.Silent (.ofForm form) value) →
      ((form.preview answers).status = .complete ↔
        (form.validate answers).missingRequired = []) ∧
      ((form.preview answers).status = .needInput →
        ∃ id ∈ (form.validate answers).missingRequired,
          (form.preview answers).nextQuestionId = some id.text)) := by
  have hcomplete := @status_eq_complete_iff_missing form answers hids
  have hnext : (form.preview answers).status = .needInput →
      ∃ q, Wanted form answers q ∧ (form.preview answers).nextQuestionId = some q.id.text ∧
        (q.id ∈ (form.validate answers).missingRequired ∨
          ∃ value, answers.given? q.id = some value ∧ q.Silent (.ofForm form) value) := by
    intro hstatus
    obtain ⟨id, hid⟩ := status_eq_needInput_iff.mp hstatus
    obtain ⟨q, hwanted, hempty, rfl⟩ := exists_of_nextQuestionId hids hid
    refine ⟨q, hwanted, hid, ?_⟩
    rcases (Question.displayValue_eq_empty_iff hwanted.leaf).mp hempty with hopen | hsilent
    · exact .inl ((mem_missingRequired_iff hids).mpr ⟨q, hwanted, hopen, rfl⟩)
    · exact .inr hsilent
  refine ⟨hcomplete, hnext, fun hspoken => ⟨?_, fun hstatus => ?_⟩⟩
  · rw [hcomplete]
    exact ⟨fun h => h.1, fun h => ⟨h, hspoken⟩⟩
  · obtain ⟨q, hwanted, hid, hmissing | ⟨value, hgiven, hsilent⟩⟩ := hnext hstatus
    · exact ⟨q.id, hmissing, hid⟩
    · exact absurd hsilent (hspoken q value hwanted hgiven)

/-- The bundled form with a referral chosen: the name is asked for next. -/
theorem status_agrees_with_validation_bundled :
    Service.bundledForm.DistinctIds ∧
      (Service.bundledForm.preview ⟨[("3", .str "32")]⟩).status = .needInput ∧
      ∃ id ∈ (Service.bundledForm.validate ⟨[("3", .str "32")]⟩).missingRequired,
        (Service.bundledForm.preview ⟨[("3", .str "32")]⟩).nextQuestionId = some id.text := by
  have hids : Service.bundledForm.DistinctIds := by decide
  obtain ⟨hcomplete, -, hagree⟩ :=
    status_agrees_with_validation Service.bundledForm hids ⟨[("3", .str "32")]⟩
  -- the referral is the only answer, and it reads as the label of its option
  have hspoken : ∀ q value, Wanted Service.bundledForm ⟨[("3", .str "32")]⟩ q →
      Answers.given? ⟨[("3", .str "32")]⟩ q.id = some value →
        ¬ q.Silent (.ofForm Service.bundledForm) value := by
    intro q value hwanted hgiven
    have hreading : ∀ q ∈ Service.bundledForm.questions, q.id.text = "3" →
        q.reading (.ofForm Service.bundledForm) "32" ≠ "" := by decide +kernel
    have hget := Answers.get?_of_given? hgiven
    unfold Answers.get? Members.lookup at hget
    split at hget
    · next hid =>
      obtain rfl := Option.some.inj hget
      rintro (hnone | ⟨key, hkey, hempty⟩)
      · cases hnone
      · obtain rfl := (List.cons.inj hkey).1
        exact hreading q hwanted.seen.mem hid hempty
    · cases hget
  have hgoals : Seen Service.bundledForm ⟨[("3", .str "32")]⟩
      { Service.bundledQuestion "7" "Goals" .multipleChoice none 1 with
        allowMultiple := true
        description := some "Select every goal that applies."
        options := [Service.bundledChoice "71" "Mobility" none 0,
          Service.bundledChoice "72" "Self-care" none 1,
          Service.bundledChoice "73" "Work" none 2] } :=
    (seen_iff_of_top (by decide) rfl).mpr (by decide)
  have hstatus : (Service.bundledForm.preview ⟨[("3", .str "32")]⟩).status = .needInput := by
    cases h : (Service.bundledForm.preview ⟨[("3", .str "32")]⟩).status with
    | needInput => rfl
    | complete =>
      have hmissing := (hcomplete.mp h).1
      rw [missingRequired_eq_nil_iff hids] at hmissing
      exact absurd rfl (hmissing _ ⟨hgoals, rfl, rfl⟩)
  exact ⟨hids, hstatus, (hagree hspoken).2 hstatus⟩

/-! ### A silent answer -/

/-- A required choice whose only option has an empty text. -/
def unlabelledQuestion : Question :=
  ⟨⟨"q"⟩, "Pick one", .multipleChoice, none, 0, true, false, none, none,
    [⟨⟨"a"⟩, "", none, 0⟩]⟩

/-- A form with an option that has an empty text. -/
def unlabelledForm : Form := ⟨⟨"f"⟩, "Silent option", none, [unlabelledQuestion], []⟩

/-- **A silent answer is asked for again**, although validation accepts it and misses nothing. -/
theorem silent_answer_is_asked_for_again :
    unlabelledForm.DistinctIds ∧ unlabelledForm.lint = [] ∧
      (unlabelledForm.validate ⟨[("q", .str "a")]⟩).valid = true ∧
      (unlabelledForm.validate ⟨[("q", .str "a")]⟩).missingRequired = [] ∧
      (unlabelledForm.preview ⟨[("q", .str "a")]⟩).status = .needInput ∧
      (unlabelledForm.preview ⟨[("q", .str "a")]⟩).nextQuestionId = some "q" := by
  have hids : unlabelledForm.DistinctIds := by decide
  have hseen : ∀ q, Seen unlabelledForm ⟨[("q", .str "a")]⟩ q → q = unlabelledQuestion :=
    fun q h => List.mem_singleton.mp h.mem
  have hvalid : (unlabelledForm.validate ⟨[("q", .str "a")]⟩).valid = true :=
    valid_of_all (by decide) (by decide) (by decide)
  have hwanted : Wanted unlabelledForm ⟨[("q", .str "a")]⟩ unlabelledQuestion :=
    ⟨(seen_iff_of_top (by decide) rfl).mpr (by decide), rfl, rfl⟩
  have hnext : (unlabelledForm.preview ⟨[("q", .str "a")]⟩).nextQuestionId = some "q" := by
    cases h : (unlabelledForm.preview ⟨[("q", .str "a")]⟩).nextQuestionId with
    | none => exact absurd (by decide +kernel) (displayValue_of_nextQuestionId_eq_none hids h hwanted)
    | some id =>
      obtain ⟨q, hq, -, rfl⟩ := exists_of_nextQuestionId hids h
      rw [hseen q hq.seen]
      rfl
  exact ⟨hids, by decide +kernel, hvalid, (ValidationReport.valid_iff.mp hvalid).2.1,
    status_eq_needInput_iff.mpr ⟨_, hnext⟩, hnext⟩

end Questionnaire
