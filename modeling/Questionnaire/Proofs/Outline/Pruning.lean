import Questionnaire.Proofs.Outline.Walk

/-! # Pruning a walk

A walk may leave a subtree out on the way, or walk everything and drop what does not lead up
afterwards. Where no id is repeated both give the same nodes in the same order and at the same
depths (`walk_eq_filter_reachable`). The two walks are run side by side: the agenda of the pruned
walk is at every step that part of the other agenda that the test is asked about. -/

namespace Questionnaire

/-- No two questions of the form have the same id. -/
def Form.DistinctIds (form : Form) : Prop := (form.questions.map (·.id)).Nodup

instance (form : Form) : Decidable form.DistinctIds := by
  unfold Form.DistinctIds; infer_instance

namespace Outline

variable {questions : List Question} {keep : Question → Bool}

/-- Where no id is repeated, an id has one entry. -/
theorem IsEntry.eq_of_id (hids : (questions.map (·.id)).Nodup) {e e' : Entry}
    (h : IsEntry questions e) (h' : IsEntry questions e')
    (hid : e.question.id = e'.question.id) : e = e' := by
  refine h.eq h' ?_
  have h1 : (questions.map (·.id))[e.position]? = some e.question.id := by
    rw [List.getElem?_map, h, Option.map_some]
  have h2 : (questions.map (·.id))[e'.position]? = some e.question.id := by
    rw [List.getElem?_map, h', Option.map_some, hid]
  exact (List.getElem?_inj (by simpa using h.lt) hids).mp (h1.trans h2.symm)

/-- A child of an entry is asked about if and only if the entry leads up. -/
theorem asked_child_iff (hids : (questions.map (·.id)).Nodup) {e child : Entry}
    (he : IsEntry questions e) (hchild : IsEntry questions child)
    (hsection : e.question.isSection = true)
    (hparent : child.question.parentId = some e.question.id) :
    Asked questions keep child ↔ Leads questions keep e := by
  constructor
  · rintro ⟨-, hnone | ⟨parent, hleads, -, hnames⟩⟩
    · rw [hparent] at hnone; cases hnone
    · rw [hparent] at hnames
      rw [he.eq_of_id hids hleads.isEntry (Option.some.inj hnames)]
      exact hleads
  · intro hleads
    exact ⟨hchild, .inr ⟨e, hleads, hsection, hparent⟩⟩

open Classical in
theorem filter_below (hids : (questions.map (·.id)).Nodup) {e : Entry} (he : IsEntry questions e)
    (depth : Nat) :
    ((ofQuestions questions).below e depth true).filter (fun item => Asked questions keep item.1) =
      (ofQuestions questions).below e depth (decide (Leads questions keep e)) := by
  by_cases hleads : Leads questions keep e
  · rw [decide_eq_true hleads, List.filter_eq_self]
    intro item hitem
    obtain ⟨⟨-, hsection⟩, -, hentry, hparent⟩ := mem_below.mp hitem
    exact decide_eq_true ((asked_child_iff hids he hentry hsection hparent).mpr hleads)
  · have hnone : (ofQuestions questions).below e depth false = [] := by simp [below]
    rw [decide_eq_false hleads, hnone, List.filter_eq_nil_iff]
    intro item hitem
    obtain ⟨⟨-, hsection⟩, -, hentry, hparent⟩ := mem_below.mp hitem
    simp [asked_child_iff hids he hentry hsection hparent, hleads]

/-- An entry visited and its depth. -/
def Visit.place (v : Visit) : Entry × Nat := (v.entry, v.depth)

open Classical in
/-- **Both walks side by side.** The full walk, less what does not lead up, keeps what the pruned
walk keeps, if the pruned agenda is what the test is asked about of the full one. -/
theorem visitsFrom_prune (hids : (questions.map (·.id)).Nodup) (keep : Question → Bool)
    (pendingAll : List Nat) (agenda : List (Entry × Nat)) :
    ∀ pending : List Nat, pendingAll.Nodup → pending.Nodup →
      (∀ e, Asked questions keep e → (e.position ∈ pending ↔ e.position ∈ pendingAll)) →
      (∀ item ∈ agenda, IsEntry questions item.1) →
      (((ofQuestions questions).visitsFrom (fun _ => true) pendingAll agenda).filter
          fun v => Leads questions keep v.entry).map Visit.place =
        (((ofQuestions questions).visitsFrom keep pending
          (agenda.filter fun item => Asked questions keep item.1)).filter (·.kept)).map
            Visit.place := by
  induction pendingAll, agenda using
    visitsFrom.induct (ofQuestions questions) (fun _ => true) with
  | case1 => simp
  | case2 pendingAll e depth agenda h kept ih =>
    intro pending hnodupAll hnodup hpending hagenda
    have he : IsEntry questions e := hagenda (e, depth) (by simp)
    have hrest : ∀ item ∈ (ofQuestions questions).below e depth true ++ agenda,
        IsEntry questions item.1 :=
      isEntry_below_append (fun item hitem => hagenda item (List.mem_cons_of_mem _ hitem)) e _ _
    -- another entry is still pending in the one walk if it is in the other
    have hothers : ∀ e', Asked questions keep e' → e' ≠ e →
        (e'.position ∈ pending ↔ e'.position ∈ pendingAll.erase e.position) := by
      intro e' hasked hne
      rw [hnodupAll.mem_erase_iff, hpending e' hasked]
      exact ⟨fun hmem => ⟨fun hp => hne (hasked.1.eq he hp), hmem⟩, fun hmem => hmem.2⟩
    rw [visitsFrom_cons_of_mem h]
    by_cases hasked : Asked questions keep e
    · -- both walks visit the entry
      have hdecide : decide (Leads questions keep e) = keep e.question := by
        rw [Bool.eq_iff_iff, decide_eq_true_eq, leads_iff]
        exact ⟨fun h => h.2, fun h => ⟨hasked, h⟩⟩
      have hagendaPos : ((e, depth) :: agenda).filter (fun item => Asked questions keep item.1) =
          (e, depth) :: agenda.filter fun item => Asked questions keep item.1 :=
        List.filter_cons_of_pos (by simpa using hasked)
      rw [hagendaPos, visitsFrom_cons_of_mem ((hpending e hasked).mpr h)]
      have step := ih (pending.erase e.position) (hnodupAll.erase _) (hnodup.erase _)
        (fun e' he' => by
          by_cases hee : e' = e
          · subst hee; rw [hnodupAll.mem_erase_iff, hnodup.mem_erase_iff]; simp
          · rw [hnodup.mem_erase_iff, ← hothers e' he' hee]
            exact ⟨fun hmem => hmem.2, fun hmem => ⟨fun hp => hee (he'.1.eq he hp), hmem⟩⟩) hrest
      rw [List.filter_append, filter_below hids he, hdecide] at step
      by_cases hleads : Leads questions keep e
      · have hkeep : keep e.question = true := (leads_iff.mp hleads).2
        rw [List.filter_cons_of_pos (by simpa using hleads),
          List.filter_cons_of_pos (by simpa using hkeep), List.map_cons, List.map_cons, step]
        rfl
      · have hkeep : keep e.question = false := by rw [← hdecide]; exact decide_eq_false hleads
        rw [List.filter_cons_of_neg (by simpa using hleads),
          List.filter_cons_of_neg (by simp [hkeep]), step]
    · -- the pruned walk does not come to the entry, nor to anything below it
      have hleads : ¬ Leads questions keep e := fun hl => hasked (leads_iff.mp hl).1
      have step := ih pending (hnodupAll.erase _) hnodup
        (fun e' he' => hothers e' he' fun hee => hasked (hee ▸ he')) hrest
      have hnone : (ofQuestions questions).below e depth false = [] := by simp [below]
      rw [List.filter_append, filter_below hids he, decide_eq_false hleads, hnone,
        List.nil_append] at step
      have hagendaNeg : ((e, depth) :: agenda).filter (fun item => Asked questions keep item.1) =
          agenda.filter fun item => Asked questions keep item.1 :=
        List.filter_cons_of_neg (by simpa using hasked)
      rw [List.filter_cons_of_neg (by simpa using hleads), hagendaNeg]
      exact step
  | case3 pendingAll e depth agenda h ih =>
    intro pending hnodupAll hnodup hpending hagenda
    have hrest : ∀ item ∈ agenda, IsEntry questions item.1 := fun item hitem =>
      hagenda item (List.mem_cons_of_mem _ hitem)
    rw [visitsFrom_cons_of_not_mem h, ih pending hnodupAll hnodup hpending hrest]
    by_cases hasked : Asked questions keep e
    · rw [List.filter_cons_of_pos (by simpa using hasked),
        visitsFrom_cons_of_not_mem fun hmem => h ((hpending e hasked).mp hmem)]
    · rw [List.filter_cons_of_neg (by simpa using hasked)]

/-- Where no id is repeated, no id is walked to twice. -/
theorem nodup_walk_ids (hids : (questions.map (·.id)).Nodup) (keep : Question → Bool) :
    (((ofQuestions questions).walk keep).map (·.question.id)).Nodup := by
  have hvisits : (((ofQuestions questions).visits keep).map (·.entry.position)).Nodup :=
    nodup_visits _
  have hkept := (List.pairwise_map.mp hvisits).filter (·.kept)
  rw [walk_eq_map, List.map_map, List.Nodup, List.pairwise_map]
  refine hkept.imp_of_mem fun {v v'} hv hv' hne hid => hne ?_
  have hentry := (visit_spec (List.mem_filter.mp hv).1).1.1
  have hentry' := (visit_spec (List.mem_filter.mp hv').1).1.1
  rw [hentry.eq_of_id hids hentry' hid]

/-- **Pruning on the way and dropping afterwards agree**, if `shown` tells what leads up. -/
theorem walk_eq_filter_reachable (hids : (questions.map (·.id)).Nodup) (shown : Question → Bool)
    (hshown : ∀ e, IsEntry questions e →
      (shown e.question = true ↔ Leads questions keep e)) :
    (ofQuestions questions).walk keep =
      (ofQuestions questions).reachable.filter fun node => shown node.question := by
  classical
  have hroots : ((ofQuestions questions).roots.map fun root => (root, 0)).filter
      (fun item => Asked questions keep item.1) =
        (ofQuestions questions).roots.map fun root => (root, 0) := by
    rw [List.filter_eq_self]
    intro item hitem
    obtain ⟨root, hroot, rfl⟩ := List.mem_map.mp hitem
    obtain ⟨hentry, hparent⟩ := mem_roots.mp hroot
    exact decide_eq_true ⟨hentry, .inl hparent⟩
  have hprune := visitsFrom_prune hids keep (List.range questions.length)
    ((ofQuestions questions).roots.map fun root => (root, 0)) (List.range questions.length)
    List.nodup_range List.nodup_range (fun _ _ => Iff.rfl) isEntry_roots
  rw [hroots] at hprune
  have hall : ((ofQuestions questions).visits fun _ => true).filter (·.kept) =
      (ofQuestions questions).visits fun _ => true :=
    List.filter_eq_self.mpr fun v hv => (visit_spec hv).2
  have hfilter : ((ofQuestions questions).visits fun _ => true).filter
      (fun v => shown v.entry.question) =
        ((ofQuestions questions).visits fun _ => true).filter
          fun v => Leads questions keep v.entry :=
    List.filter_congr fun v hv => by
      rw [Bool.eq_iff_iff, hshown _ (visit_spec hv).1.1, decide_eq_true_eq]
  unfold reachable
  rw [walk_eq_map, walk_eq_map, hall, List.filter_map]
  have hplaces := congrArg (List.map fun place : Entry × Nat => Node.mk place.1.question place.2)
    hprune
  rw [List.map_map, List.map_map] at hplaces
  exact hplaces.symm.trans (congrArg _ hfilter.symm)

end Outline

/-- Where no id is repeated, the questions of the form are told apart by their ids. -/
theorem Form.DistinctIds.eq_of_id {form : Form} (hids : form.DistinctIds) {q q' : Question}
    (hq : q ∈ form.questions) (hq' : q' ∈ form.questions) (hid : q.id = q'.id) : q = q' := by
  obtain ⟨e, he, rfl⟩ := Outline.exists_isEntry hq
  obtain ⟨e', he', rfl⟩ := Outline.exists_isEntry hq'
  rw [he.eq_of_id hids he' hid]

end Questionnaire
