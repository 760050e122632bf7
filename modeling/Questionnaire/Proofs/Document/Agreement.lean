import Mathlib.Data.Fin.Basic
import Mathlib.Data.List.Forall2
import Questionnaire.Preview.Basic
import Questionnaire.Proofs.Outline.Order
import Questionnaire.Proofs.Outline.Pruning
import Questionnaire.Proofs.Visibility.Chain
import Questionnaire.Service.Bundled

/-! # Preview and document show the same

The document is compiled from a walk that leaves hidden sections out on the way; the preview lists
everything that leads up and looks each question up in the map of what is visible. Where no id is
repeated, the visible questions of the preview and the blocks of the document correspond one to one
and in order (`preview_agrees_with_document`), each with the same text, answer and depth
(`Shows`). -/

namespace Questionnaire

open Outline

variable {form : Form} {answers : Answers}

/-- **A block shows a question of the preview**: a header a section, a standalone entry a question
of the top level, a row any other question, with the same text, answer and depth. -/
def Shows (q : PreviewQuestion) : Block → Prop
  | .sectionHeader text depth => q.isLeaf = false ∧ text = q.text ∧ depth = q.depth
  | .row label value depth =>
    q.isLeaf = true ∧ 0 < q.depth ∧ label = q.text ∧ value = q.displayValue ∧ depth = q.depth
  | .standalone label value answered =>
    q.isLeaf = true ∧ q.depth = 0 ∧ label = q.text ∧ value = q.displayValue ∧
      answered = q.isAnswered

theorem shows_block (node : Node) (visibility : VisibilityMap) (answers : Answers)
    (labels : Labels) :
    Shows (.ofNode node visibility answers labels) (node.block answers labels) := by
  unfold Node.block
  by_cases hsection : node.question.isSection = true
  · rw [if_pos hsection]
    have hkind : node.question.kind.isSection = true := hsection
    exact ⟨by simp [PreviewQuestion.isLeaf, PreviewQuestion.ofNode, hkind], rfl, rfl⟩
  · rw [if_neg hsection]
    have hkind : node.question.kind.isSection = false := by
      simpa [Question.isSection] using hsection
    have hleaf : (PreviewQuestion.ofNode node visibility answers labels).isLeaf = true := by
      simp [PreviewQuestion.isLeaf, PreviewQuestion.ofNode, hkind]
    by_cases hdepth : node.depth = 0
    · rw [if_pos hdepth]
      exact ⟨hleaf, hdepth, rfl, rfl, rfl⟩
    · rw [if_neg hdepth]
      exact ⟨hleaf, Nat.pos_of_ne_zero hdepth, rfl, rfl, rfl⟩

/-! ### The map where no id is repeated -/

/-- Where no id is repeated, a question is visible if and only if its own entry is shown. -/
theorem getD_effectiveVisibility_iff (hids : form.DistinctIds) {e : Entry}
    (he : IsEntry form.questions e) :
    (form.effectiveVisibility answers)[e.question.id.text]?.getD false = true ↔
      Shown form answers e := by
  rw [getD_false_iff, effectiveVisibility_eq_true_iff]
  constructor
  · rintro ⟨e', he', hid⟩
    rwa [he.eq_of_id hids he'.isEntry (ItemId.ext hid.symm)]
  · intro h
    exact ⟨e, h, rfl⟩

/-- **The pruned walk gives the reachable questions that the map shows.** -/
theorem visibleNodes_eq_filter (hids : form.DistinctIds) (answers : Answers) :
    form.visibleNodes answers = (ofQuestions form.questions).reachable.filter fun node =>
      (form.effectiveVisibility answers)[node.question.id.text]?.getD false := by
  rw [visibleNodes_eq]
  exact walk_eq_filter_reachable hids
    (fun q => (form.effectiveVisibility answers)[q.id.text]?.getD false)
    fun e he => getD_effectiveVisibility_iff hids he

theorem preview_visible_eq (hids : form.DistinctIds) (answers : Answers) :
    (form.preview answers).visible = (form.visibleNodes answers).map fun node =>
      .ofNode node (form.effectiveVisibility answers) answers (.ofForm form) := by
  rw [visibleNodes_eq_filter hids]
  unfold Preview.visible Form.preview
  rw [List.filter_map]
  rfl

/-- **Preview and document never diverge.** Where no id is repeated, the visible questions of the
preview are those that the blocks of the document show, one by one and in the same order. -/
theorem preview_agrees_with_document (form : Form) (hids : form.DistinctIds) (answers : Answers) :
    List.Forall₂ Shows (form.preview answers).visible (form.compile answers).blocks := by
  rw [preview_visible_eq hids]
  unfold Form.compile
  rw [List.forall₂_map_left_iff, List.forall₂_map_right_iff, List.forall₂_same]
  intro node _
  exact shows_block node _ answers _

/-! ### The bundled form -/

namespace Service

/-- A question of the bundled form with its position. -/
def bundledEntry (i : Fin 9) : Entry := ⟨i, bundledForm.questions.get i⟩

/-- A question of the bundled form at a depth. -/
def bundledNode (i : Fin 9) (depth : Nat) : Node := ⟨(bundledEntry i).question, depth⟩

theorem sortedEntries_bundledForm :
    sortedEntries bundledForm.questions = [0, 1, 4, 2, 5, 6, 3, 7, 8].map bundledEntry := by
  -- there is only one arrangement in the order of the places
  have hperm : (sortedEntries bundledForm.questions).Perm
      ([0, 1, 4, 2, 5, 6, 3, 7, 8].map bundledEntry) :=
    (List.mergeSort_perm _ _).trans (by decide)
  have hplaces : ([0, 1, 4, 2, 5, 6, 3, 7, 8].map bundledEntry).Pairwise
      fun a b => placeOf a < placeOf b := by
    simp only [Place.lt_iff]
    decide
  exact hperm.eq_of_pairwise (fun _ _ _ _ hab hba => (Std.Asymm.asymm _ _ hab hba).elim)
    (pairwise_placeOf_sortedEntries _) hplaces

/-- Two sections have questions below them. -/
theorem below_bundledForm (i : Fin 9) (depth : Nat) (kept : Bool) :
    (ofQuestions bundledForm.questions).below (bundledEntry i) depth kept =
      if kept then
        (if i = 0 then [1, 2, 3] else if i = 3 then [4, 5] else []).map fun child =>
          (bundledEntry child, depth + 1)
      else [] := by
  have hunder : ∀ i : Fin 9, (([0, 1, 4, 2, 5, 6, 3, 7, 8].map bundledEntry).filter fun e =>
      (bundledEntry i).question.isSection &&
        decide (e.question.parentId = some (bundledEntry i).question.id)) =
      (if i = 0 then [1, 2, 3] else if i = 3 then [4, 5] else []).map bundledEntry := by decide
  have hi := hunder i
  rw [below, entriesUnder_eq, sortedEntries_bundledForm]
  cases kept with
  | false => rfl
  | true => cases hsection : (bundledEntry i).question.isSection <;> simp_all

/-- The walk through the bundled form: a test may refuse the nested section, and with it all below,
and the hours of work. -/
theorem walk_bundledForm {keep : Question → Bool} (nested hours : Bool)
    (hkeep : ∀ i, keep (bundledEntry i).question = ((i != 3 || nested) && (i != 7 || hours))) :
    (ofQuestions bundledForm.questions).walk keep =
      [bundledNode 0 0, bundledNode 1 1, bundledNode 2 1] ++
        (if nested then [bundledNode 3 1, bundledNode 4 2, bundledNode 5 2] else []) ++
        bundledNode 6 0 :: (if hours then [bundledNode 7 0] else []) ++ [bundledNode 8 0] := by
  have hroots : (ofQuestions bundledForm.questions).roots = [0, 6, 7, 8].map bundledEntry := by
    rw [roots_eq, sortedEntries_bundledForm]
    decide
  have hpending : List.range (ofQuestions bundledForm.questions).questions.length =
      [0, 1, 2, 3, 4, 5, 6, 7, 8] := by decide
  have hposition : ∀ i, (bundledEntry i).position = i := fun _ => rfl
  rw [walk, visits, hroots, hpending]
  cases nested <;> cases hours <;>
    simp [visitsFrom, below_bundledForm, hkeep, hposition, bundledNode]

/-- With a specialist chosen all but the hours of work are visible. -/
theorem visibleNodes_bundledForm :
    bundledForm.visibleNodes ⟨[("3", .str "32")]⟩ =
      [bundledNode 0 0, bundledNode 1 1, bundledNode 2 1, bundledNode 3 1, bundledNode 4 2,
        bundledNode 5 2, bundledNode 6 0, bundledNode 8 0] := by
  rw [visibleNodes_eq]
  exact walk_bundledForm true false (by decide)

end Service

/-- The bundled form with a specialist chosen, whose answer shows a nested section. -/
theorem preview_agrees_with_document_bundled :
    Service.bundledForm.DistinctIds ∧
      List.Forall₂ Shows (Service.bundledForm.preview ⟨[("3", .str "32")]⟩).visible
        (Service.bundledForm.compile ⟨[("3", .str "32")]⟩).blocks ∧
      (Service.bundledForm.compile ⟨[("3", .str "32")]⟩).blocks =
        [.sectionHeader "Client" 0, .row "Full name" "" 1, .row "Referral type" "Specialist" 1,
          .sectionHeader "Specialist details" 1, .row "Specialism" "" 2,
          .row "Referral date" "" 2, .standalone "Goals" "" false,
          .standalone "Remarks" "" false] := by
  refine ⟨by decide, preview_agrees_with_document _ (by decide) _, ?_⟩
  unfold Form.compile
  rw [Service.visibleNodes_bundledForm]
  decide +kernel

end Questionnaire
