import Mathlib.Data.List.Pairwise
import Questionnaire.Proofs.Outline.Pruning

/-! # The list of a form in another order

Siblings stand in the order of their order indexes, and only where two of them share one does the
list decide that they are given in. Where none do (`DistinctPlaces`), the list may be given in any
order: sorting leaves every level of the outline as it was (`level_eq_of_perm`). The walk then goes
through other positions, but it comes to the same questions: two walks that stand at the same point
(`InStep`) do so after each visit (`InStep.visit`), and in the end they have kept the same nodes
(`walk_eq_of_perm`). -/

namespace Questionnaire.Outline

variable {questions questions' : List Question}

/-- No two questions of one level have the same order index. -/
def DistinctPlaces (questions : List Question) : Prop :=
  questions.Pairwise fun a b => a.parentId = b.parentId → a.orderIndex ≠ b.orderIndex

instance (questions : List Question) : Decidable (DistinctPlaces questions) := by
  unfold DistinctPlaces; infer_instance

/-! ### Levels -/

/-- Entries are sorted by a comparison that is transitive and total. -/
theorem sortedEntries_order :
    (∀ a b c : Entry, decide (a.question.orderIndex ≤ b.question.orderIndex) = true →
      decide (b.question.orderIndex ≤ c.question.orderIndex) = true →
        decide (a.question.orderIndex ≤ c.question.orderIndex) = true) ∧
    ∀ a b : Entry, (decide (a.question.orderIndex ≤ b.question.orderIndex) ||
      decide (b.question.orderIndex ≤ a.question.orderIndex)) = true := by
  constructor
  · intro a b c hab hbc
    exact decide_eq_true (Int64.le_trans (of_decide_eq_true hab) (of_decide_eq_true hbc))
  · intro a b
    rcases Int64.le_total a.question.orderIndex b.question.orderIndex with h | h
    · simp [h]
    · simp [h]

theorem pairwise_sortedEntries (questions : List Question) :
    (sortedEntries questions).Pairwise fun a b =>
      a.question.orderIndex ≤ b.question.orderIndex := by
  unfold sortedEntries
  exact (List.pairwise_mergeSort sortedEntries_order.1 sortedEntries_order.2 _).imp
    fun h => of_decide_eq_true h

theorem map_question_sortedEntries_perm (questions : List Question) :
    ((sortedEntries questions).map (·.question)).Perm questions := by
  have hquestions : (questions.zipIdx.map fun item => Entry.mk item.2 item.1).map (·.question) =
      questions := by
    rw [List.map_map]
    exact List.zipIdx_map_fst 0 questions
  have hsorted : (sortedEntries questions).Perm
      (questions.zipIdx.map fun item => Entry.mk item.2 item.1) :=
    List.mergeSort_perm _ _
  have hperm := hsorted.map (·.question)
  rwa [hquestions] at hperm

/-- The questions that name a parent, or none, in the order of the outline. -/
def level (questions : List Question) (parent : Option ItemId) : List Question :=
  ((sortedEntries questions).map (·.question)).filter fun q => decide (q.parentId = parent)

theorem rootQuestions_eq : (ofQuestions questions).rootQuestions = level questions none := by
  unfold rootQuestions level
  rw [roots_eq, List.filter_map]
  rfl

theorem childrenOf_eq (parent : ItemId) :
    (ofQuestions questions).childrenOf parent = level questions (some parent) := by
  unfold childrenOf level
  rw [entriesUnder_eq, List.filter_map]
  rfl

theorem DistinctPlaces.eq (h : DistinctPlaces questions) {q q' : Question} (hq : q ∈ questions)
    (hq' : q' ∈ questions) (hparent : q.parentId = q'.parentId)
    (hplace : q.orderIndex = q'.orderIndex) : q = q' := by
  by_contra hne
  have hsymm : Std.Symm fun a b : Question =>
      a.parentId = b.parentId → a.orderIndex ≠ b.orderIndex :=
    ⟨fun a b hab hba => (hab hba.symm).symm⟩
  exact List.Pairwise.forall h hq hq' hne hparent hplace

/-- **A level is the same for every order of the list.** -/
theorem level_eq_of_perm (hplaces : DistinctPlaces questions) (hperm : questions'.Perm questions)
    (parent : Option ItemId) : level questions' parent = level questions parent := by
  have hlevels : (level questions' parent).Perm (level questions parent) :=
    (((map_question_sortedEntries_perm questions').trans hperm).trans
      (map_question_sortedEntries_perm questions).symm).filter _
  have hsorted : ∀ questions : List Question,
      (level questions parent).Pairwise fun a b => a.orderIndex ≤ b.orderIndex := by
    intro questions
    refine List.Pairwise.filter _ ?_
    rw [List.pairwise_map]
    exact pairwise_sortedEntries questions
  have hmem : ∀ q ∈ level questions parent, q ∈ questions ∧ q.parentId = parent := by
    intro q hq
    obtain ⟨hq, hparent⟩ := List.mem_filter.mp hq
    exact ⟨(map_question_sortedEntries_perm questions).mem_iff.mp hq, of_decide_eq_true hparent⟩
  -- what is sorted has one order, since siblings of one order index are the same question
  refine List.Perm.eq_of_pairwise (fun a b ha hb hab hba => ?_) (hsorted questions')
    (hsorted questions) hlevels
  obtain ⟨ha, haparent⟩ := hmem a (hlevels.mem_iff.mp ha)
  obtain ⟨hb, hbparent⟩ := hmem b hb
  exact hplaces.eq ha hb (haparent.trans hbparent.symm) (Int64.le_antisymm hab hba)

/-! ### Two walks in step -/

/-- **The outlines are the same level by level**, and no id is repeated. -/
structure SameLevels (questions questions' : List Question) : Prop where
  ids : (questions.map (·.id)).Nodup
  ids' : (questions'.map (·.id)).Nodup
  levels : ∀ parent, level questions parent = level questions' parent

/-- An entry of the agenda without its position. -/
def ahead (item : Entry × Nat) : Question × Nat := (item.1.question, item.2)

/-- **Two walks stand at the same point**: they have the same questions before them at the same
depths, and a question is still pending in the one if it is in the other. -/
structure InStep (questions questions' : List Question) (pending pending' : List Nat)
    (agenda agenda' : List (Entry × Nat)) : Prop where
  nodup : pending.Nodup
  nodup' : pending'.Nodup
  entries : ∀ item ∈ agenda, IsEntry questions item.1
  entries' : ∀ item ∈ agenda', IsEntry questions' item.1
  same : agenda.map ahead = agenda'.map ahead
  pending_iff : ∀ e e', IsEntry questions e → IsEntry questions' e' → e.question = e'.question →
    (e.position ∈ pending ↔ e'.position ∈ pending')

theorem map_ahead_below (e : Entry) (depth : Nat) (kept : Bool) :
    ((ofQuestions questions).below e depth kept).map ahead =
      if kept && e.question.isSection then
        (level questions (some e.question.id)).map fun q => (q, depth + 1)
      else [] := by
  unfold below
  rw [← childrenOf_eq, childrenOf]
  split
  · rw [List.map_map, List.map_map]
    rfl
  · rfl

namespace InStep

variable {pending pending' : List Nat} {e e' : Entry} {depth depth' : Nat}
  {agenda agenda' : List (Entry × Nat)}

theorem head (h : InStep questions questions' pending pending' ((e, depth) :: agenda)
    ((e', depth') :: agenda')) :
    e.question = e'.question ∧ depth = depth' ∧ (e.position ∈ pending ↔ e'.position ∈ pending') := by
  have hahead : ahead (e, depth) = ahead (e', depth') := (List.cons.inj h.same).1
  have hquestion : e.question = e'.question := congrArg Prod.fst hahead
  have he : IsEntry questions e := h.entries (e, depth) (by simp)
  have he' : IsEntry questions' e' := h.entries' (e', depth') (by simp)
  exact ⟨hquestion, congrArg Prod.snd hahead, h.pending_iff e e' he he' hquestion⟩

/-- Both pass over the entry that is before them. -/
theorem pass (h : InStep questions questions' pending pending' ((e, depth) :: agenda)
    ((e', depth') :: agenda')) : InStep questions questions' pending pending' agenda agenda' where
  nodup := h.nodup
  nodup' := h.nodup'
  entries := fun item hitem => h.entries item (List.mem_cons_of_mem _ hitem)
  entries' := fun item hitem => h.entries' item (List.mem_cons_of_mem _ hitem)
  same := (List.cons.inj h.same).2
  pending_iff := h.pending_iff

/-- **Both visit the entry that is before them.** -/
theorem visit (hsame : SameLevels questions questions') (h : InStep questions questions' pending
      pending' ((e, depth) :: agenda) ((e', depth') :: agenda')) (kept : Bool) :
    InStep questions questions' (pending.erase e.position) (pending'.erase e'.position)
      ((ofQuestions questions).below e depth kept ++ agenda)
      ((ofQuestions questions').below e' depth' kept ++ agenda') where
  nodup := h.nodup.erase _
  nodup' := h.nodup'.erase _
  entries := isEntry_below_append h.pass.entries e depth kept
  entries' := isEntry_below_append h.pass.entries' e' depth' kept
  same := by
    obtain ⟨hquestion, hdepth, -⟩ := h.head
    rw [List.map_append, List.map_append, map_ahead_below, map_ahead_below, hquestion, hdepth,
      hsame.levels, h.pass.same]
  pending_iff := by
    intro f f' hf hf' heq
    obtain ⟨hquestion, -⟩ := h.head
    have he : IsEntry questions e := h.entries (e, depth) (by simp)
    have he' : IsEntry questions' e' := h.entries' (e', depth') (by simp)
    -- an entry is the one just visited in the one walk if it is in the other
    have hvisited : f.position = e.position ↔ f'.position = e'.position := by
      constructor
      · intro hp
        rw [hf.eq he hp] at heq
        rw [hf'.eq_of_id hsame.ids' he' (by rw [← heq, hquestion])]
      · intro hp
        rw [hf'.eq he' hp] at heq
        rw [hf.eq_of_id hsame.ids he (by rw [heq, hquestion])]
    rw [h.nodup.mem_erase_iff, h.nodup'.mem_erase_iff, h.pending_iff f f' hf hf' heq, Ne, Ne,
      hvisited]

end InStep

/-- A visit without the position of its entry. -/
def face (v : Visit) : Question × Nat × Bool := (v.entry.question, v.depth, v.kept)

/-- **Walks in step make the same visits**, but for the positions. -/
theorem visitsFrom_eq_of_inStep (hsame : SameLevels questions questions') (keep : Question → Bool)
    (pending : List Nat) (agenda : List (Entry × Nat)) :
    ∀ pending' agenda', InStep questions questions' pending pending' agenda agenda' →
      ((ofQuestions questions).visitsFrom keep pending agenda).map face =
        ((ofQuestions questions').visitsFrom keep pending' agenda').map face := by
  induction pending, agenda using visitsFrom.induct (ofQuestions questions) keep with
  | case1 pending =>
    intro pending' agenda' h
    obtain rfl := List.map_eq_nil_iff.mp h.same.symm
    simp
  | case2 pending e depth agenda hmem kept ih =>
    intro pending' agenda' h
    cases agenda' with
    | nil => cases h.same
    | cons item agenda' =>
      obtain ⟨e', depth'⟩ := item
      obtain ⟨hquestion, rfl, hpending⟩ := h.head
      rw [visitsFrom_cons_of_mem hmem, visitsFrom_cons_of_mem (hpending.mp hmem), List.map_cons,
        List.map_cons, ← hquestion, ih _ _ (h.visit hsame (keep e.question))]
      simp only [face, hquestion]
  | case3 pending e depth agenda hmem ih =>
    intro pending' agenda' h
    cases agenda' with
    | nil => cases h.same
    | cons item agenda' =>
      obtain ⟨e', depth'⟩ := item
      obtain ⟨-, rfl, hpending⟩ := h.head
      have hmem' : e'.position ∉ pending' := fun hmem' => hmem (hpending.mpr hmem')
      rw [visitsFrom_cons_of_not_mem hmem, visitsFrom_cons_of_not_mem hmem', ih _ _ h.pass]

/-! ### The walk of a list in another order -/

theorem inStep_start (hsame : SameLevels questions questions') :
    InStep questions questions' (List.range questions.length) (List.range questions'.length)
      ((ofQuestions questions).roots.map fun root => (root, 0))
      ((ofQuestions questions').roots.map fun root => (root, 0)) where
  nodup := List.nodup_range
  nodup' := List.nodup_range
  entries := isEntry_roots
  entries' := isEntry_roots
  same := by
    have hroots : ∀ questions : List Question,
        ((ofQuestions questions).roots.map fun root => (root, 0)).map ahead =
          (level questions none).map fun q => (q, 0) := by
      intro questions
      rw [← rootQuestions_eq, rootQuestions, List.map_map, List.map_map]
      rfl
    rw [hroots, hroots, hsame.levels]
  pending_iff := by
    intro e e' he he' _
    simp [he.lt, he'.lt]

theorem walk_eq_filterMap (outline : Outline) (keep : Question → Bool) :
    outline.walk keep = ((outline.visits keep).map face).filterMap fun (question, depth, kept) =>
      if kept then some ⟨question, depth⟩ else none := by
  unfold walk
  rw [List.filterMap_map]
  rfl

/-- **The walk does not depend on the order of the list.** -/
theorem walk_eq_of_perm (hids : (questions.map (·.id)).Nodup) (hplaces : DistinctPlaces questions)
    (hperm : questions'.Perm questions) (keep : Question → Bool) :
    (ofQuestions questions').walk keep = (ofQuestions questions).walk keep := by
  have hsame : SameLevels questions' questions :=
    ⟨((hperm.map (·.id)).nodup_iff).mpr hids, hids, level_eq_of_perm hplaces hperm⟩
  have hvisits : ((ofQuestions questions').visits keep).map face =
      ((ofQuestions questions).visits keep).map face :=
    visitsFrom_eq_of_inStep hsame keep _ _ _ _ (inStep_start hsame)
  rw [walk_eq_filterMap, walk_eq_filterMap, hvisits]

end Questionnaire.Outline
