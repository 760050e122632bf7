import Mathlib.Data.List.Perm.Subperm
import Mathlib.Order.Bounds.Basic
import Questionnaire.Proofs.Outline.Pruning

/-! # The walk as a closure

What the walk keeps is told without a walk: the positions that it yields are the least set of
positions that is closed under going down from the top level and from the sections in the set
(`Closed`). The test is asked about each question that the set opens, once, and about no other
(`walk_is_closure`). Ids may repeat, so that two sections share what stands under them, and parents
may be missing, be no sections, or stand in a circle. -/

namespace Questionnaire.Outline

variable {questions : List Question} {keep : Question → Bool} {positions : Set Nat}

/-- The question has no parent, or a section with the parent's id stands at one of the
positions. -/
def OpenedBy (questions : List Question) (positions : Set Nat) (q : Question) : Prop :=
  q.parentId = none ∨ ∃ position ∈ positions, ∃ parent, questions[position]? = some parent ∧
    parent.isSection = true ∧ q.parentId = some parent.id

/-- **The positions are closed**: a question that they open and the test keeps stands at one of
them. -/
def Closed (questions : List Question) (keep : Question → Bool) (positions : Set Nat) : Prop :=
  ∀ position q, questions[position]? = some q → OpenedBy questions positions q →
    keep q = true → position ∈ positions

/-- The positions of the questions that the test is asked about, in the order of the walk. -/
def askedPositions (outline : Outline) (keep : Question → Bool) : List Nat :=
  (outline.visits keep).map (·.entry.position)

/-- The positions of the questions that the walk yields, in its order. -/
def keptPositions (outline : Outline) (keep : Question → Bool) : List Nat :=
  ((outline.visits keep).filter (·.kept)).map (·.entry.position)

/-! ### Positions and entries -/

theorem mem_askedPositions_iff {position : Nat} :
    position ∈ (ofQuestions questions).askedPositions keep ↔
      ∃ e, Asked questions keep e ∧ e.position = position := by
  simp only [askedPositions, List.mem_map, ← mem_visits_iff]
  constructor
  · rintro ⟨v, hv, rfl⟩
    exact ⟨v.entry, ⟨v, hv, rfl⟩, rfl⟩
  · rintro ⟨e, ⟨v, hv, rfl⟩, rfl⟩
    exact ⟨v, hv, rfl⟩

theorem mem_keptPositions_iff {position : Nat} :
    position ∈ (ofQuestions questions).keptPositions keep ↔
      ∃ e, Leads questions keep e ∧ e.position = position := by
  simp only [keptPositions, List.mem_map, List.mem_filter, leads_iff, ← mem_visits_iff]
  constructor
  · rintro ⟨v, ⟨hv, hkept⟩, rfl⟩
    exact ⟨v.entry, ⟨⟨v, hv, rfl⟩, (visit_spec hv).2.symm.trans hkept⟩, rfl⟩
  · rintro ⟨e, ⟨⟨v, hv, rfl⟩, hkeep⟩, rfl⟩
    exact ⟨v, ⟨hv, (visit_spec hv).2.trans hkeep⟩, rfl⟩

/-- What the kept positions open is what the test is asked about. -/
theorem asked_iff_openedBy {e : Entry} :
    Asked questions keep e ↔ IsEntry questions e ∧
      OpenedBy questions {p | p ∈ (ofQuestions questions).keptPositions keep} e.question := by
  refine and_congr_right fun _ => or_congr_right ?_
  constructor
  · rintro ⟨parent, hleads, hsection, hnames⟩
    exact ⟨parent.position, mem_keptPositions_iff.mpr ⟨parent, hleads, rfl⟩, parent.question,
      hleads.isEntry, hsection, hnames⟩
  · rintro ⟨position, hmem, question, hquestion, hsection, hnames⟩
    obtain ⟨parent, hleads, rfl⟩ := mem_keptPositions_iff.mp hmem
    obtain rfl : parent.question = question := Option.some.inj (hleads.isEntry.symm.trans hquestion)
    exact ⟨parent, hleads, hsection, hnames⟩

/-! ### The least closed set -/

theorem closed_keptPositions :
    Closed questions keep {p | p ∈ (ofQuestions questions).keptPositions keep} := by
  intro position q hq hopened hkeep
  have hasked : Asked questions keep ⟨position, q⟩ := asked_iff_openedBy.mpr ⟨hq, hopened⟩
  exact mem_keptPositions_iff.mpr ⟨⟨position, q⟩, leads_iff.mpr ⟨hasked, hkeep⟩, rfl⟩

/-- What leads up stands at a position of every closed set. -/
theorem Leads.mem_of_closed (hclosed : Closed questions keep positions) {e : Entry}
    (h : Leads questions keep e) : e.position ∈ positions := by
  induction h with
  | top entry noParent kept => exact hclosed _ _ entry (.inl noParent) kept
  | under above isSection entry names kept ih =>
    exact hclosed _ _ entry (.inr ⟨_, ih, _, above.isEntry, isSection, names⟩) kept

theorem isLeast_keptPositions :
    IsLeast {positions | Closed questions keep positions}
      {p | p ∈ (ofQuestions questions).keptPositions keep} := by
  refine ⟨closed_keptPositions, fun positions hclosed position hmem => ?_⟩
  obtain ⟨e, hleads, rfl⟩ := mem_keptPositions_iff.mp hmem
  exact hleads.mem_of_closed hclosed

/-! ### Once each -/

theorem keptPositions_sublist (outline : Outline) (keep : Question → Bool) :
    (outline.keptPositions keep).Sublist (outline.askedPositions keep) :=
  List.filter_sublist.map _

/-- The nodes of the walk are the questions at the kept positions, in the same order. -/
theorem forall₂_walk :
    List.Forall₂ (fun position node => questions[position]? = some node.question)
      ((ofQuestions questions).keptPositions keep) ((ofQuestions questions).walk keep) := by
  rw [walk_eq_map, keptPositions, List.forall₂_map_left_iff,
    List.forall₂_map_right_iff, List.forall₂_same]
  intro v hv
  exact (visit_spec (List.mem_filter.mp hv).1).1.1

/-- The test is asked at most once about each question of the form. -/
theorem length_askedPositions_le :
    ((ofQuestions questions).askedPositions keep).length ≤ questions.length := by
  have hrange : (ofQuestions questions).askedPositions keep ⊆ List.range questions.length := by
    intro position hmem
    obtain ⟨e, hasked, rfl⟩ := mem_askedPositions_iff.mp hmem
    exact List.mem_range.mpr hasked.1.lt
  have hlength := (List.subperm_of_subset (nodup_visits _) hrange).length_le
  rwa [List.length_range] at hlength

/-- The walk yields no more nodes than there are questions. -/
theorem length_walk_le (questions : List Question) (keep : Question → Bool) :
    ((ofQuestions questions).walk keep).length ≤ questions.length := by
  rw [← forall₂_walk.length_eq]
  exact (keptPositions_sublist _ keep).length_le.trans length_askedPositions_le

/-- **The walk is a complete closure and comes to everything once.** The positions that it yields,
each once and with the question that stands there, are the least closed set. The test is asked once
about each question that the set opens and about no other, so that the walk ends after at most one
step for each question. -/
theorem walk_is_closure (questions : List Question) (keep : Question → Bool) :
    let outline := ofQuestions questions
    let yielded : Set Nat := {p | p ∈ outline.keptPositions keep}
    (IsLeast {positions | Closed questions keep positions} yielded ∧
        (outline.keptPositions keep).Nodup ∧
        List.Forall₂ (fun position node => questions[position]? = some node.question)
          (outline.keptPositions keep) (outline.walk keep)) ∧
      (outline.askedPositions keep).Nodup ∧
      (∀ position, position ∈ outline.askedPositions keep ↔
        ∃ q, questions[position]? = some q ∧ OpenedBy questions yielded q) ∧
      (outline.askedPositions keep).length ≤ questions.length := by
  refine ⟨⟨isLeast_keptPositions, (nodup_visits _).sublist (keptPositions_sublist _ _),
    forall₂_walk⟩, nodup_visits _, fun position => ?_, length_askedPositions_le⟩
  rw [mem_askedPositions_iff]
  constructor
  · rintro ⟨e, hasked, rfl⟩
    obtain ⟨hentry, hopened⟩ := asked_iff_openedBy.mp hasked
    exact ⟨e.question, hentry, hopened⟩
  · rintro ⟨q, hq, hopened⟩
    exact ⟨⟨position, q⟩, asked_iff_openedBy.mpr ⟨hq, hopened⟩, rfl⟩

end Questionnaire.Outline
