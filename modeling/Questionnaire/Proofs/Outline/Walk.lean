import Questionnaire.Outline
import Questionnaire.Proofs.Lookup

/-! # What the walk comes to

`Leads` says without a walk which entries the test keeps on the way down from the top level: those
that have no parent, and those below a section that leads up itself. `Asked` are the entries that
the test is asked about. The walk visits exactly these (`mem_visits_iff`), each once
(`nodup_visits`), and its nodes are the entries that lead up (`mem_walk_iff`). Nothing is assumed of
the form: ids may repeat, and parents may be missing, be no sections, or stand in a circle. -/

namespace Questionnaire.Outline

variable {questions : List Question} {keep : Question → Bool}

/-! ### Entries -/

/-- The question stands at the position. -/
def IsEntry (questions : List Question) (e : Entry) : Prop :=
  questions[e.position]? = some e.question

theorem mem_sortedEntries {e : Entry} : e ∈ sortedEntries questions ↔ IsEntry questions e := by
  obtain ⟨position, question⟩ := e
  unfold sortedEntries IsEntry
  simp only [List.mem_mergeSort, List.mem_map, Prod.exists, List.mem_zipIdx_iff_getElem?]
  constructor
  · rintro ⟨q, p, h, heq⟩; cases heq; exact h
  · intro h; exact ⟨question, position, h, rfl⟩

theorem roots_eq : (ofQuestions questions).roots =
    (sortedEntries questions).filter fun e => decide (e.question.parentId = none) := by
  unfold ofQuestions
  refine List.filter_congr fun e _ => ?_
  cases e.question.parentId with
  | none => rfl
  | some id => simp

theorem entriesUnder_eq (parent : ItemId) : (ofQuestions questions).entriesUnder parent =
    (sortedEntries questions).filter fun e => decide (e.question.parentId = some parent) := by
  unfold entriesUnder ofQuestions
  rw [Grouping.group_ofList]
  refine List.filter_congr fun e _ => ?_
  cases e.question.parentId with
  | none => simp
  | some id => simp [ItemId.ext_iff, Bool.beq_eq_decide_eq]

theorem mem_roots {e : Entry} : e ∈ (ofQuestions questions).roots ↔
    IsEntry questions e ∧ e.question.parentId = none := by
  rw [roots_eq, List.mem_filter, mem_sortedEntries, decide_eq_true_eq]

theorem mem_entriesUnder {e : Entry} {parent : ItemId} :
    e ∈ (ofQuestions questions).entriesUnder parent ↔
      IsEntry questions e ∧ e.question.parentId = some parent := by
  rw [entriesUnder_eq, List.mem_filter, mem_sortedEntries, decide_eq_true_eq]

theorem IsEntry.mem {e : Entry} (h : IsEntry questions e) : e.question ∈ questions :=
  List.mem_of_getElem? h

theorem IsEntry.lt {e : Entry} (h : IsEntry questions e) : e.position < questions.length := by
  obtain ⟨hlt, -⟩ := List.getElem?_eq_some_iff.mp h
  exact hlt

/-- A position has one question. -/
theorem IsEntry.eq {e e' : Entry} (h : IsEntry questions e) (h' : IsEntry questions e')
    (hp : e.position = e'.position) : e = e' := by
  obtain ⟨position, question⟩ := e
  obtain ⟨position', question'⟩ := e'
  cases hp
  unfold IsEntry at h h'
  rw [h] at h'
  cases h'
  rfl

theorem exists_isEntry {q : Question} (h : q ∈ questions) :
    ∃ e, IsEntry questions e ∧ e.question = q := by
  obtain ⟨position, hlt, rfl⟩ := List.getElem_of_mem h
  exact ⟨⟨position, questions[position]⟩, List.getElem?_eq_getElem hlt, rfl⟩

/-! ### Leading up -/

/-- **The entry leads up**: it and the sections above it, up to the top level, are kept. -/
inductive Leads (questions : List Question) (keep : Question → Bool) : Entry → Prop
  | top {e : Entry} (entry : IsEntry questions e) (noParent : e.question.parentId = none)
      (kept : keep e.question = true) : Leads questions keep e
  | under {e parent : Entry} (above : Leads questions keep parent)
      (isSection : parent.question.isSection = true) (entry : IsEntry questions e)
      (names : e.question.parentId = some parent.question.id) (kept : keep e.question = true) :
      Leads questions keep e

/-- The entry has no parent or stands below a section that leads up. -/
def Asked (questions : List Question) (keep : Question → Bool) (e : Entry) : Prop :=
  IsEntry questions e ∧ (e.question.parentId = none ∨
    ∃ parent, Leads questions keep parent ∧ parent.question.isSection = true ∧
      e.question.parentId = some parent.question.id)

theorem Leads.isEntry {e : Entry} (h : Leads questions keep e) : IsEntry questions e := by
  cases h with
  | top entry _ _ => exact entry
  | under _ _ entry _ _ => exact entry

theorem leads_iff {e : Entry} :
    Leads questions keep e ↔ Asked questions keep e ∧ keep e.question = true := by
  constructor
  · intro h
    cases h with
    | top entry noParent kept => exact ⟨⟨entry, .inl noParent⟩, kept⟩
    | under above isSection entry names kept =>
      exact ⟨⟨entry, .inr ⟨_, above, isSection, names⟩⟩, kept⟩
  · rintro ⟨⟨entry, noParent | ⟨parent, above, isSection, names⟩⟩, kept⟩
    · exact .top entry noParent kept
    · exact .under above isSection entry names kept

/-- Dropping the test only lets more lead up. -/
theorem Leads.mono {keep' : Question → Bool} (h : ∀ q, keep q = true → keep' q = true) {e : Entry}
    (he : Leads questions keep e) : Leads questions keep' e := by
  induction he with
  | top entry noParent kept => exact .top entry noParent (h _ kept)
  | under _ isSection entry names kept ih => exact .under ih isSection entry names (h _ kept)

/-! ### The steps of the walk -/

section Steps
variable {outline : Outline} {pending : List Nat} {e : Entry} {depth : Nat}
  {agenda : List (Entry × Nat)}

@[simp] theorem visitsFrom_nil : outline.visitsFrom keep pending [] = [] := by
  rw [visitsFrom]

theorem visitsFrom_cons_of_mem (h : e.position ∈ pending) :
    outline.visitsFrom keep pending ((e, depth) :: agenda) =
      ⟨e, depth, keep e.question⟩ :: outline.visitsFrom keep (pending.erase e.position)
        (outline.below e depth (keep e.question) ++ agenda) := by
  rw [visitsFrom, if_pos h]

theorem visitsFrom_cons_of_not_mem (h : e.position ∉ pending) :
    outline.visitsFrom keep pending ((e, depth) :: agenda) =
      outline.visitsFrom keep pending agenda := by
  rw [visitsFrom, if_neg h]

end Steps

theorem mem_below {e child : Entry} {depth depth' : Nat} {kept : Bool} :
    (child, depth') ∈ (ofQuestions questions).below e depth kept ↔
      (kept = true ∧ e.question.isSection = true) ∧ depth' = depth + 1 ∧
        IsEntry questions child ∧ child.question.parentId = some e.question.id := by
  unfold below
  split
  · next h =>
    simp only [Bool.and_eq_true] at h
    simp only [List.mem_map, Prod.mk.injEq, mem_entriesUnder]
    constructor
    · rintro ⟨c, hc, rfl, rfl⟩; exact ⟨h, rfl, hc⟩
    · rintro ⟨-, rfl, hc⟩; exact ⟨child, hc, rfl, rfl⟩
  · next h =>
    simp only [Bool.and_eq_true] at h
    simp [h]

/-! ### Agendas -/

theorem isEntry_roots : ∀ item ∈ (ofQuestions questions).roots.map fun root => (root, 0),
    IsEntry questions item.1 := by
  intro item hitem
  obtain ⟨root, hroot, rfl⟩ := List.mem_map.mp hitem
  exact (mem_roots.mp hroot).1

/-- After a visit there are still only entries on the agenda. -/
theorem isEntry_below_append {agenda : List (Entry × Nat)}
    (hagenda : ∀ item ∈ agenda, IsEntry questions item.1) (e : Entry) (depth : Nat)
    (kept : Bool) : ∀ item ∈ (ofQuestions questions).below e depth kept ++ agenda,
      IsEntry questions item.1 := by
  intro item hitem
  rcases List.mem_append.mp hitem with hitem | hitem
  · exact (mem_below.mp hitem).2.2.1
  · exact hagenda item hitem

/-! ### The walk is sound -/

theorem asked_of_mem_visitsFrom (pending : List Nat) (agenda : List (Entry × Nat))
    (hagenda : ∀ item ∈ agenda, Asked questions keep item.1) :
    ∀ v ∈ (ofQuestions questions).visitsFrom keep pending agenda,
      Asked questions keep v.entry ∧ v.kept = keep v.entry.question := by
  induction pending, agenda using visitsFrom.induct (ofQuestions questions) keep with
  | case1 => simp
  | case2 pending e depth agenda h kept ih =>
    rw [visitsFrom_cons_of_mem h]
    have hasked : Asked questions keep e := hagenda (e, depth) (by simp)
    intro v hv
    rcases List.mem_cons.mp hv with rfl | hv
    · exact ⟨hasked, rfl⟩
    · refine ih (fun item hitem => ?_) v hv
      rcases List.mem_append.mp hitem with hitem | hitem
      · obtain ⟨⟨hkept, hsection⟩, -, hentry, hparent⟩ := mem_below.mp hitem
        exact ⟨hentry, .inr ⟨e, leads_iff.mpr ⟨hasked, hkept⟩, hsection, hparent⟩⟩
      · exact hagenda item (List.mem_cons_of_mem _ hitem)
  | case3 pending e depth agenda h ih =>
    rw [visitsFrom_cons_of_not_mem h]
    exact ih fun item hitem => hagenda item (List.mem_cons_of_mem _ hitem)

theorem nodup_visitsFrom (outline : Outline) (pending : List Nat) (agenda : List (Entry × Nat))
    (hpending : pending.Nodup) :
    ((outline.visitsFrom keep pending agenda).map (·.entry.position)).Nodup ∧
      ∀ v ∈ outline.visitsFrom keep pending agenda, v.entry.position ∈ pending := by
  induction pending, agenda using visitsFrom.induct outline keep with
  | case1 => simp
  | case2 pending e depth agenda h kept ih =>
    obtain ⟨ih1, ih2⟩ := ih (hpending.erase _)
    rw [visitsFrom_cons_of_mem h]
    constructor
    · rw [List.map_cons, List.nodup_cons]
      refine ⟨fun hmem => ?_, ih1⟩
      obtain ⟨v, hv, heq⟩ := List.mem_map.mp hmem
      have := ih2 v hv
      rw [heq, hpending.mem_erase_iff] at this
      exact this.1 rfl
    · intro v hv
      rcases List.mem_cons.mp hv with rfl | hv
      · exact h
      · exact List.mem_of_mem_erase (ih2 v hv)
  | case3 pending e depth agenda h ih =>
    rw [visitsFrom_cons_of_not_mem h]
    exact ih hpending

/-- Each visit takes a position away, and only then does the walk go one level down. So the depth
of what is on the agenda and the number of pending positions together never grow. -/
theorem depth_lt_of_mem_visitsFrom {total : Nat} (pending : List Nat) (agenda : List (Entry × Nat))
    (hagenda : ∀ item ∈ agenda, item.2 + pending.length ≤ total) :
    ∀ v ∈ (ofQuestions questions).visitsFrom keep pending agenda, v.depth < total := by
  induction pending, agenda using visitsFrom.induct (ofQuestions questions) keep with
  | case1 => simp
  | case2 pending e depth agenda h kept ih =>
    rw [visitsFrom_cons_of_mem h]
    have hpos : 0 < pending.length := List.length_pos_of_mem h
    have hdepth : depth + pending.length ≤ total := hagenda (e, depth) (by simp)
    intro v hv
    rcases List.mem_cons.mp hv with rfl | hv
    · change depth < total
      omega
    · refine ih (fun item hitem => ?_) v hv
      rw [List.length_erase_of_mem h]
      rcases List.mem_append.mp hitem with hitem | hitem
      · obtain ⟨-, hlevel, -⟩ := mem_below.mp hitem
        omega
      · have hitem := hagenda item (List.mem_cons_of_mem _ hitem)
        omega
  | case3 pending e depth agenda h ih =>
    rw [visitsFrom_cons_of_not_mem h]
    exact ih fun item hitem => hagenda item (List.mem_cons_of_mem _ hitem)

/-! ### The walk is complete -/

/-- The position is visited. -/
def Comes (outline : Outline) (keep : Question → Bool) (pending : List Nat)
    (agenda : List (Entry × Nat)) (position : Nat) : Prop :=
  ∃ v ∈ outline.visitsFrom keep pending agenda, v.entry.position = position

/-- Everything on the agenda and everything below a kept section is visited, unless it was visited
before. -/
theorem comes_of_pending (keep : Question → Bool) (pending : List Nat)
    (agenda : List (Entry × Nat)) :
    (∀ item ∈ agenda, item.1.position ∈ pending →
      Comes (ofQuestions questions) keep pending agenda item.1.position) ∧
    ∀ v ∈ (ofQuestions questions).visitsFrom keep pending agenda, v.kept = true →
      v.entry.question.isSection = true → ∀ child, IsEntry questions child →
        child.question.parentId = some v.entry.question.id → child.position ∈ pending →
          Comes (ofQuestions questions) keep pending agenda child.position := by
  unfold Comes
  induction pending, agenda using visitsFrom.induct (ofQuestions questions) keep with
  | case1 => simp
  | case2 pending e depth agenda h kept ih =>
    obtain ⟨ih1, ih2⟩ := ih
    simp only [visitsFrom_cons_of_mem h, List.mem_cons, exists_eq_or_imp]
    -- a pending position other than that of `e` is still pending afterwards
    have later : ∀ position ∈ pending, position ≠ e.position →
        position ∈ pending.erase e.position := fun position hmem hne =>
      (List.mem_erase_of_ne hne).mpr hmem
    refine ⟨fun item hitem hmem => ?_, fun v hv hkept hsection child hentry hparent hmem => ?_⟩
    · by_cases heq : item.1.position = e.position
      · exact .inl heq.symm
      · rcases hitem with rfl | hitem
        · exact absurd rfl heq
        · exact .inr (ih1 item (List.mem_append_right _ hitem) (later _ hmem heq))
    · by_cases heq : child.position = e.position
      · exact .inl heq.symm
      · rcases hv with rfl | hv
        · exact .inr (ih1 (child, depth + 1) (List.mem_append_left _ (mem_below.mpr
            ⟨⟨hkept, hsection⟩, rfl, hentry, hparent⟩)) (later _ hmem heq))
        · exact .inr (ih2 v hv hkept hsection child hentry hparent (later _ hmem heq))
  | case3 pending e depth agenda h ih =>
    obtain ⟨ih1, ih2⟩ := ih
    simp only [visitsFrom_cons_of_not_mem h]
    refine ⟨fun item hitem hmem => ?_, ih2⟩
    rcases List.mem_cons.mp hitem with rfl | hitem
    · exact absurd hmem h
    · exact ih1 item hitem hmem

/-! ### The visits of a form -/

theorem visit_spec {v : Visit} (h : v ∈ (ofQuestions questions).visits keep) :
    Asked questions keep v.entry ∧ v.kept = keep v.entry.question := by
  refine asked_of_mem_visitsFrom _ _ (fun item hitem => ?_) v h
  obtain ⟨root, hroot, rfl⟩ := List.mem_map.mp hitem
  obtain ⟨hentry, hparent⟩ := mem_roots.mp hroot
  exact ⟨hentry, .inl hparent⟩

/-- **No visit is as deep as there are questions.** -/
theorem depth_lt_of_mem_visits {v : Visit} (h : v ∈ (ofQuestions questions).visits keep) :
    v.depth < questions.length := by
  refine depth_lt_of_mem_visitsFrom _ _ (fun item hitem => ?_) v h
  obtain ⟨root, -, rfl⟩ := List.mem_map.mp hitem
  exact Nat.le_of_eq ((Nat.zero_add _).trans List.length_range)

/-- **No entry is visited twice.** -/
theorem nodup_visits (outline : Outline) :
    ((outline.visits keep).map (·.entry.position)).Nodup :=
  (nodup_visitsFrom outline _ _ List.nodup_range).1

theorem exists_visit_of_comes {e : Entry} (he : IsEntry questions e)
    (h : Comes (ofQuestions questions) keep (List.range questions.length)
      ((ofQuestions questions).roots.map fun root => (root, 0)) e.position) :
    ∃ v ∈ (ofQuestions questions).visits keep, v.entry = e := by
  obtain ⟨v, hv, hposition⟩ := h
  exact ⟨v, hv, (visit_spec hv).1.1.eq he hposition⟩

theorem exists_visit_of_asked {e : Entry} (h : Asked questions keep e) :
    ∃ v ∈ (ofQuestions questions).visits keep, v.entry = e := by
  obtain ⟨hagenda, hbelow⟩ := comes_of_pending keep (List.range questions.length)
    ((ofQuestions questions).roots.map fun root => (root, 0))
  -- entries without a parent stand on the first agenda
  have top : ∀ e, IsEntry questions e → e.question.parentId = none →
      ∃ v ∈ (ofQuestions questions).visits keep, v.entry = e := fun e hentry hparent =>
    exists_visit_of_comes hentry (hagenda (e, 0)
      (List.mem_map.mpr ⟨e, mem_roots.mpr ⟨hentry, hparent⟩, rfl⟩)
      (List.mem_range.mpr hentry.lt))
  have under : ∀ parent e, (∃ v ∈ (ofQuestions questions).visits keep, v.entry = parent) →
      keep parent.question = true → parent.question.isSection = true → IsEntry questions e →
      e.question.parentId = some parent.question.id →
        ∃ v ∈ (ofQuestions questions).visits keep, v.entry = e := by
    rintro parent e ⟨v, hv, rfl⟩ hkept hsection hentry hparent
    exact exists_visit_of_comes hentry (hbelow v hv ((visit_spec hv).2.trans hkept)
      hsection e hentry hparent (List.mem_range.mpr hentry.lt))
  obtain ⟨hentry, hparent | ⟨parent, hleads, hsection, hparent⟩⟩ := h
  · exact top e hentry hparent
  · refine under parent e ?_ (leads_iff.mp hleads).2 hsection hentry hparent
    -- the parent itself is visited, by induction on what leads up to it
    clear hparent hsection
    induction hleads with
    | top entry noParent _ => exact top _ entry noParent
    | under above isSection entry names _ ih =>
      exact under _ _ ih (leads_iff.mp above).2 isSection entry names

/-- **The walk visits the entries that the test is asked about.** -/
theorem mem_visits_iff {e : Entry} :
    (∃ v ∈ (ofQuestions questions).visits keep, v.entry = e) ↔ Asked questions keep e := by
  refine ⟨?_, exists_visit_of_asked⟩
  rintro ⟨v, hv, rfl⟩
  exact (visit_spec hv).1

/-! ### The nodes of the walk -/

/-- The node of a visit that was kept. -/
def Visit.node (v : Visit) : Node := ⟨v.entry.question, v.depth⟩

theorem walk_eq_map (outline : Outline) (keep : Question → Bool) :
    outline.walk keep = ((outline.visits keep).filter (·.kept)).map Visit.node := by
  unfold walk
  induction outline.visits keep with
  | nil => rfl
  | cons v visits ih =>
    cases hkept : v.kept with
    | true => simp [hkept, ih, Visit.node]
    | false => simp [hkept, ih]

/-- **The nodes of the walk are the entries that lead up.** -/
theorem mem_walk_iff {q : Question} :
    (∃ node ∈ (ofQuestions questions).walk keep, node.question = q) ↔
      ∃ e, Leads questions keep e ∧ e.question = q := by
  rw [walk_eq_map]
  simp only [List.mem_map, List.mem_filter]
  constructor
  · rintro ⟨node, ⟨v, ⟨hv, hkept⟩, rfl⟩, rfl⟩
    obtain ⟨hasked, hkeep⟩ := visit_spec hv
    exact ⟨v.entry, leads_iff.mpr ⟨hasked, hkeep.symm.trans hkept⟩, rfl⟩
  · rintro ⟨e, hleads, rfl⟩
    obtain ⟨hasked, hkeep⟩ := leads_iff.mp hleads
    obtain ⟨v, hv, rfl⟩ := exists_visit_of_asked hasked
    exact ⟨Visit.node v, ⟨v, ⟨hv, (visit_spec hv).2.trans hkeep⟩, rfl⟩, rfl⟩

end Questionnaire.Outline
