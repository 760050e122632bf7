import Mathlib.Data.List.Chain
import Questionnaire.Proofs.Outline.Walk

/-! # The depths of the walk

Only sections are descended into, and what stands below a section is walked before what stands
beside it. So a walk begins at the top level, and from one node to the next it goes down by at most
one level, and that from a section only (`isChain_walk`). The invariant is that the agenda never
goes down: no item of it stands deeper than the one before it. Nothing is assumed of the form. -/

namespace Questionnaire.Outline

variable {questions : List Question} {keep : Question → Bool}

/-- **One node may come after another** if it stands no deeper, or one level below it and the other
is a section. -/
def MayFollow (node next : Node) : Prop :=
  next.depth ≤ node.depth ∨ next.depth = node.depth + 1 ∧ node.question.isSection = true

/-- **The agenda never goes down**, and stands nowhere deeper than the bound. -/
structure Descending (bound : Nat) (agenda : List (Entry × Nat)) : Prop where
  bounded : ∀ item ∈ agenda, item.2 ≤ bound
  sorted : agenda.Pairwise fun item later => later.2 ≤ item.2

namespace Descending

variable {bound : Nat} {e : Entry} {depth : Nat} {agenda : List (Entry × Nat)}

theorem mono {bound' : Nat} (h : Descending bound agenda) (hle : bound ≤ bound') :
    Descending bound' agenda :=
  ⟨fun item hitem => (h.bounded item hitem).trans hle, h.sorted⟩

/-- What comes after an item stands no deeper than the item. -/
theorem tail (h : Descending bound ((e, depth) :: agenda)) : Descending depth agenda :=
  ⟨(List.pairwise_cons.mp h.sorted).1, h.sorted.of_cons⟩

theorem le (h : Descending bound ((e, depth) :: agenda)) : depth ≤ bound :=
  h.bounded (e, depth) List.mem_cons_self

/-- After a visit the agenda goes on one level deeper if a section was kept, and else no deeper than
before. -/
theorem visit (h : Descending bound ((e, depth) :: agenda)) (kept : Bool) :
    Descending (if kept && e.question.isSection then depth + 1 else depth)
      ((ofQuestions questions).below e depth kept ++ agenda) := by
  unfold below
  split
  · refine ⟨fun item hitem => ?_, List.pairwise_append.mpr ⟨?_, h.tail.sorted, ?_⟩⟩
    · rcases List.mem_append.mp hitem with hitem | hitem
      · obtain ⟨child, -, rfl⟩ := List.mem_map.mp hitem
        exact le_rfl
      · exact (h.tail.bounded item hitem).trans (Nat.le_succ depth)
    · rw [List.pairwise_map]
      exact List.pairwise_of_forall fun _ _ => le_rfl
    · intro item hitem later hlater
      obtain ⟨child, -, rfl⟩ := List.mem_map.mp hitem
      exact (h.tail.bounded later hlater).trans (Nat.le_succ depth)
  · exact h.tail

end Descending

/-- **The visits that are kept go down one level at a time, and from sections only**, from any
agenda that does not go down itself. -/
theorem isChain_visitsFrom (pending : List Nat) (agenda : List (Entry × Nat)) :
    ∀ bound, Descending bound agenda →
      (∀ v ∈ (((ofQuestions questions).visitsFrom keep pending agenda).filter (·.kept)).head?,
        v.depth ≤ bound) ∧
      (((ofQuestions questions).visitsFrom keep pending agenda).filter (·.kept)).IsChain
        fun v later => MayFollow (Visit.node v) (Visit.node later) := by
  induction pending, agenda using visitsFrom.induct (ofQuestions questions) keep with
  | case1 =>
    intro bound _
    simp
  | case2 pending e depth agenda h kept ih =>
    intro bound hagenda
    obtain ⟨hhead, hchain⟩ := ih _ (hagenda.visit kept)
    rw [visitsFrom_cons_of_mem h]
    cases hkept : keep e.question with
    | true =>
      have hkept' : kept = true := hkept
      rw [hkept'] at hhead hchain
      rw [List.filter_cons_of_pos rfl]
      refine ⟨?_, List.isChain_cons.mpr ⟨fun later hlater => ?_, hchain⟩⟩
      · rintro v ⟨⟩
        exact hagenda.le
      · have hdepth := hhead later hlater
        cases hsection : e.question.isSection with
        | true =>
          rw [hsection] at hdepth
          exact (Nat.lt_or_eq_of_le hdepth).imp Nat.le_of_lt_succ fun heq => ⟨heq, hsection⟩
        | false =>
          rw [hsection] at hdepth
          exact .inl hdepth
    | false =>
      have hkept' : kept = false := hkept
      rw [hkept'] at hhead hchain
      rw [List.filter_cons_of_neg Bool.false_ne_true]
      exact ⟨fun v hv => (hhead v hv).trans hagenda.le, hchain⟩
  | case3 pending e depth agenda h ih =>
    intro bound hagenda
    rw [visitsFrom_cons_of_not_mem h]
    exact ih bound (hagenda.tail.mono hagenda.le)

/-- **The depths of a walk**: it begins at the top level, and each node may come after the one
before it. -/
theorem isChain_walk (questions : List Question) (keep : Question → Bool) :
    (∀ node ∈ ((ofQuestions questions).walk keep).head?, node.depth = 0) ∧
      ((ofQuestions questions).walk keep).IsChain MayFollow := by
  have hroots : Descending 0 ((ofQuestions questions).roots.map fun root => (root, 0)) := by
    refine ⟨fun item hitem => ?_, ?_⟩
    · obtain ⟨root, -, rfl⟩ := List.mem_map.mp hitem
      exact le_rfl
    · rw [List.pairwise_map]
      exact List.pairwise_of_forall fun _ _ => le_rfl
  obtain ⟨hhead, hchain⟩ := isChain_visitsFrom (List.range questions.length) _ 0 hroots
  rw [walk_eq_map, List.isChain_map, List.head?_map]
  refine ⟨fun node hnode => ?_, hchain⟩
  obtain ⟨v, hv, rfl⟩ := Option.map_eq_some_iff.mp hnode
  exact Nat.le_zero.mp (hhead v hv)

end Questionnaire.Outline
