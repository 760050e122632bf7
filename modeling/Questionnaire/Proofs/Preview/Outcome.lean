import Questionnaire.Preview.Basic
import Questionnaire.Proofs.Answers.Texts
import Questionnaire.Proofs.Visibility.Chain

/-! # What answers come to

The status of a preview, its next question and its progress are read off its visible leaves, and of
each of these only its id, whether it is required and what it displays
(`sameOutcome_of_gists`). So answers that say the same at the triggers of the rules, and at
the questions that are seen, have the same effect (`SaySame.sameEffect`): they show the same
questions, compile to the same document, and bring the preview to the same outcome. -/

namespace Questionnaire

open Outline

/-! ### The outcome of a preview -/

namespace Preview

/-- **The previews ask for the same**: the same status, next question and progress. -/
structure SameOutcome (preview preview' : Preview) : Prop where
  status : preview.status = preview'.status
  nextQuestionId : preview.nextQuestionId = preview'.nextQuestionId
  progress : preview.progress = preview'.progress

/-- What the outcome of a preview takes from one of its questions. -/
structure Gist where
  id : String
  required : Bool
  displayValue : String

/-- The gist of a question. -/
def gist (q : PreviewQuestion) : Gist := ⟨q.id, q.required, q.displayValue⟩

/-- The gists of the visible questions that can be answered. -/
def gists (questions : List PreviewQuestion) : List Gist := (visibleLeaves questions).map gist

theorem progressOf_eq (questions : List PreviewQuestion) :
    progressOf questions =
      ⟨((gists questions).filter fun g => !g.displayValue.isEmpty).length,
        (gists questions).length⟩ := by
  unfold progressOf gists
  rw [List.filter_map, List.length_map, List.length_map]
  rfl

theorem nextOf_eq (questions : List PreviewQuestion) :
    nextOf questions =
      ((gists questions).find? fun g => g.required && !!g.displayValue.isEmpty).map (·.id) := by
  unfold nextOf gists
  rw [List.find?_map, Option.map_map]
  rfl

end Preview

section Outcome
variable {form form' : Form} {answers answers' : Answers}

/-- **The outcome is read off the gists.** -/
theorem sameOutcome_of_gists
    (h : Preview.gists (form.preview answers).questions =
      Preview.gists (form'.preview answers').questions) :
    (form.preview answers).SameOutcome (form'.preview answers') := by
  have hnext : (form.preview answers).nextQuestionId = (form'.preview answers').nextQuestionId := by
    change Preview.nextOf (form.preview answers).questions =
      Preview.nextOf (form'.preview answers').questions
    rw [Preview.nextOf_eq, Preview.nextOf_eq, h]
  refine ⟨?_, hnext, ?_⟩
  · change (if (form.preview answers).nextQuestionId.isSome then PreviewStatus.needInput
      else .complete) = if (form'.preview answers').nextQuestionId.isSome then .needInput
      else .complete
    rw [hnext]
  · change Preview.progressOf (form.preview answers).questions =
      Preview.progressOf (form'.preview answers').questions
    rw [Preview.progressOf_eq, Preview.progressOf_eq, h]

/-- The gists are those of the nodes that can be answered and that the map shows. -/
theorem gists_ofNode (nodes : List Node) (visibility : VisibilityMap) (answers : Answers)
    (labels : Labels) :
    Preview.gists (nodes.map fun node => .ofNode node visibility answers labels) =
      (nodes.filter fun node =>
        visibility[node.question.id.text]?.getD false && !node.question.isSection).map
        fun node => ⟨node.question.id.text, node.question.required,
          node.question.displayValue (answers.get? node.question.id) labels⟩ := by
  unfold Preview.gists Preview.visibleLeaves
  rw [List.filter_map, List.map_map]
  rfl

/-! ### The blocks of a document -/

/-- The document of a form, its blocks written out. -/
theorem compile_eq (form : Form) (answers : Answers) :
    form.compile answers = ⟨form.title, form.description,
      (form.visibleNodes answers).map fun node => node.block answers (.ofForm form)⟩ :=
  rfl

/-- The block of a question depends on what its answer says and how the labels read it. -/
theorem block_congr {node : Node} {labels labels' : Labels}
    (hlabels : ∀ key, labels.label key = labels'.label key)
    (htexts : answers.textsAt node.question.id = answers'.textsAt node.question.id) :
    node.block answers labels = node.block answers' labels' := by
  unfold Node.block
  simp only [Question.displayValue_congr hlabels htexts]

end Outcome

/-! ### The same effect -/

/-- **The answers have the same effect on a form**: the same questions are visible, by their own
rules and for the respondent, the documents are equal, and the previews ask for the same. -/
structure SameEffect (form : Form) (answers answers' : Answers) : Prop where
  own : form.ownVisibility answers = form.ownVisibility answers'
  effective : form.effectiveVisibility answers = form.effectiveVisibility answers'
  document : form.compile answers = form.compile answers'
  outcome : (form.preview answers).SameOutcome (form.preview answers')

/-- **The answers say the same where it counts**: at the triggers of the rules, and at the ids that
the first of them show. -/
structure SaySame (form : Form) (answers answers' : Answers) : Prop where
  triggers : ∀ r ∈ form.rules, ∀ id, r.trigger = some id → answers.textsAt id = answers'.textsAt id
  shown : ∀ id : ItemId, (form.effectiveVisibility answers)[id.text]? = some true →
    answers.textsAt id = answers'.textsAt id

namespace SaySame

variable {form : Form} {answers answers' : Answers} (h : SaySame form answers answers')
include h

theorem isVisible (q : Question) :
    isVisible q form.rules answers = Questionnaire.isVisible q form.rules answers' :=
  isVisible_of_textsAt h.triggers q

theorem same_document : form.compile answers = form.compile answers' := by
  have hnodes : form.visibleNodes answers = form.visibleNodes answers' :=
    visibleNodes_of_isVisible h.isVisible
  have hblocks : (form.visibleNodes answers).map (fun node => node.block answers (.ofForm form)) =
      (form.visibleNodes answers).map fun node => node.block answers' (.ofForm form) := by
    refine List.map_congr_left fun node hnode => ?_
    exact block_congr (fun _ => rfl) (h.shown _ (effectiveVisibility_of_node hnode))
  rw [compile_eq, compile_eq, hblocks, hnodes]

theorem same_outcome : (form.preview answers).SameOutcome (form.preview answers') := by
  have hmap : form.effectiveVisibility answers = form.effectiveVisibility answers' :=
    effectiveVisibility_of_isVisible h.isVisible
  refine sameOutcome_of_gists ?_
  unfold Form.preview
  rw [gists_ofNode, gists_ofNode, ← hmap]
  refine List.map_congr_left fun node hnode => ?_
  -- only what the map shows is left, and there the answers say the same
  obtain ⟨-, hshown⟩ := List.mem_filter.mp hnode
  rw [Bool.and_eq_true, getD_false_iff] at hshown
  rw [Question.displayValue_congr (fun _ => rfl) (h.shown _ hshown.1)]

/-- **Answers that say the same where it counts have the same effect.** -/
theorem sameEffect : SameEffect form answers answers' where
  own := ownVisibility_of_isVisible h.isVisible
  effective := effectiveVisibility_of_isVisible h.isVisible
  document := h.same_document
  outcome := h.same_outcome

end SaySame

end Questionnaire
