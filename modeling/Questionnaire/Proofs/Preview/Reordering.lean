import Mathlib.Data.List.Nodup
import Questionnaire.Proofs.Outline.Reordering
import Questionnaire.Proofs.Preview.Outcome
import Questionnaire.Service.Bundled

/-! # Questions in another order

A store may list the questions of a form in any order. Where ids and the order indexes of siblings
tell the questions apart, and ids the options, the order does not count
(`question_order_does_not_count`): the walks of the outline keep the same nodes, the map of what is
visible answers alike, and so do the labels, although both are filled in another order. -/

namespace Questionnaire

open Outline

variable {form : Form} {questions : List Question} {answers : Answers}

/-- No two options of the form have the same id. -/
def Form.DistinctOptions (form : Form) : Prop := (form.allOptions.map (·.id)).Nodup

instance (form : Form) : Decidable form.DistinctOptions := by
  unfold Form.DistinctOptions; infer_instance

/-! ### Labels -/

/-- **The labels read alike** for every order of the questions. -/
theorem label_of_perm (hoptions : form.DistinctOptions) (hperm : questions.Perm form.questions)
    (key : String) :
    (Labels.ofForm { form with questions := questions }).label key =
      (Labels.ofForm form).label key := by
  have hmem : ∀ c, c ∈ { form with questions := questions }.allOptions ↔ c ∈ form.allOptions :=
    fun c => (hperm.flatMap_right (·.options)).mem_iff
  have htext : ∀ c ∈ form.allOptions, ∀ d ∈ form.allOptions, c.id.text = d.id.text →
      c.text = d.text := by
    intro c hc d hd hid
    rw [List.inj_on_of_nodup_map hoptions hc hd (ItemId.ext hid)]
  unfold Labels.label Labels.ofForm Labels.ofChoices
  rw [foldl_insert_of_mem_iff (fun c : Choice => c.id.text) (·.text) hmem htext]

/-! ### What is seen -/

section Seen
variable (hids : form.DistinctIds) (hplaces : DistinctPlaces form.questions)
  (hperm : questions.Perm form.questions)
include hids hplaces hperm

theorem visibleNodes_of_perm (answers : Answers) :
    { form with questions := questions }.visibleNodes answers = form.visibleNodes answers := by
  rw [visibleNodes_eq, visibleNodes_eq]
  exact walk_eq_of_perm hids hplaces hperm _

/-- **The map of what is visible answers alike** for every order of the questions. -/
theorem getElem?_effectiveVisibility_of_perm (answers : Answers) (id : String) :
    ({ form with questions := questions }.effectiveVisibility answers)[id]? =
      (form.effectiveVisibility answers)[id]? := by
  have hhidden : ({ form with questions := questions }.allHidden)[id]? = form.allHidden[id]? :=
    foldl_insert_of_mem_iff (fun q : Question => q.id.text) (fun _ => false)
      (fun q => hperm.mem_iff) (fun _ _ _ _ _ => rfl) id ∅
  unfold Form.effectiveVisibility
  rw [visibleNodes_of_perm hids hplaces hperm, getElem?_foldl_insert (·.question.id.text)
    (fun _ : Node => true), getElem?_foldl_insert (·.question.id.text) (fun _ : Node => true),
    hhidden]

end Seen

theorem ofNode_congr {node : Node} {visibility visibility' : VisibilityMap}
    {labels labels' : Labels}
    (hvisible : visibility[node.question.id.text]? = visibility'[node.question.id.text]?)
    (hlabels : ∀ key, labels.label key = labels'.label key) :
    PreviewQuestion.ofNode node visibility answers labels =
      .ofNode node visibility' answers labels' := by
  have hdisplay : node.question.displayValue (answers.get? node.question.id) labels =
      node.question.displayValue (answers.get? node.question.id) labels' :=
    Question.displayValue_congr hlabels rfl
  simp only [PreviewQuestion.ofNode, hvisible, hdisplay]

/-! ### Document and preview -/

section Reordering
variable (hids : form.DistinctIds) (hoptions : form.DistinctOptions)
  (hplaces : DistinctPlaces form.questions) (hperm : questions.Perm form.questions)
include hids hoptions hplaces hperm

theorem compile_of_perm (answers : Answers) :
    { form with questions := questions }.compile answers = form.compile answers := by
  rw [compile_eq, compile_eq, visibleNodes_of_perm hids hplaces hperm]
  have hblocks : ∀ node ∈ form.visibleNodes answers,
      node.block answers (.ofForm { form with questions := questions }) =
        node.block answers (.ofForm form) :=
    fun node _ => block_congr (label_of_perm hoptions hperm) rfl
  rw [List.map_congr_left hblocks]

theorem preview_questions_of_perm (answers : Answers) :
    ({ form with questions := questions }.preview answers).questions =
      (form.preview answers).questions := by
  have hnodes : (ofQuestions questions).reachable = (ofQuestions form.questions).reachable :=
    walk_eq_of_perm hids hplaces hperm _
  unfold Form.preview
  simp only [hnodes]
  refine List.map_congr_left fun node _ => ?_
  exact ofNode_congr (getElem?_effectiveVisibility_of_perm hids hplaces hperm answers _)
    (label_of_perm hoptions hperm)

end Reordering

/-- **The order of the questions does not count.** Where no id of a question or an option is
repeated and no two siblings have the same order index, a form with its questions in another order
compiles to the same document, and its preview lists the same questions and asks for the same. -/
theorem question_order_does_not_count (form : Form) (hids : form.DistinctIds)
    (hoptions : form.DistinctOptions) (hplaces : DistinctPlaces form.questions)
    (questions : List Question) (hperm : questions.Perm form.questions) (answers : Answers) :
    { form with questions := questions }.compile answers = form.compile answers ∧
      ({ form with questions := questions }.preview answers).questions =
        (form.preview answers).questions ∧
      ({ form with questions := questions }.preview answers).SameOutcome (form.preview answers) := by
  have hquestions := preview_questions_of_perm hids hoptions hplaces hperm answers
  exact ⟨compile_of_perm hids hoptions hplaces hperm answers, hquestions,
    sameOutcome_of_gists (congrArg Preview.gists hquestions)⟩

/-- The bundled form read from its end, with a specialist chosen. -/
theorem question_order_does_not_count_bundled :
    Service.bundledForm.DistinctIds ∧ Service.bundledForm.DistinctOptions ∧
      DistinctPlaces Service.bundledForm.questions ∧
      Service.bundledForm.questions.reverse.Perm Service.bundledForm.questions ∧
      { Service.bundledForm with questions := Service.bundledForm.questions.reverse }.compile
          ⟨[("3", .str "32")]⟩ = Service.bundledForm.compile ⟨[("3", .str "32")]⟩ ∧
      ({ Service.bundledForm with questions := Service.bundledForm.questions.reverse }.preview
          ⟨[("3", .str "32")]⟩).questions =
        (Service.bundledForm.preview ⟨[("3", .str "32")]⟩).questions := by
  have hids : Service.bundledForm.DistinctIds := by decide
  have hoptions : Service.bundledForm.DistinctOptions := by decide
  have hplaces : DistinctPlaces Service.bundledForm.questions := by decide
  have hperm : Service.bundledForm.questions.reverse.Perm Service.bundledForm.questions :=
    List.reverse_perm _
  obtain ⟨hdocument, hquestions, -⟩ := question_order_does_not_count Service.bundledForm hids
    hoptions hplaces _ hperm ⟨[("3", .str "32")]⟩
  exact ⟨hids, hoptions, hplaces, hperm, hdocument, hquestions⟩

end Questionnaire
