import Questionnaire.Proofs.Document.Agreement

/-! # What an answer does to visibility

Visibility depends on the answers alone, so an answer may show or hide any question, its own
included: a rule may hide the section around it. `not_seen_of_hidden` is what there is to know of
that case. A question that was open and is hidden by its answer is hidden by every set of answers in
which it has that answer: only a HIDE rule that the answer matches can have done it, and it goes on
matching. -/

namespace Questionnaire

open Outline

/-! ### One more answer -/

namespace Answers

theorem get?_insert (answers : Answers) (id id' : ItemId) (value : Json) :
    (answers.insert id value).get? id' = if id' = id then some value else answers.get? id' := by
  unfold get? insert
  rw [Members.lookup_insert]
  simp only [ItemId.ext_iff]

theorem get?_insert_self (answers : Answers) (id : ItemId) (value : Json) :
    (answers.insert id value).get? id = some value := by
  rw [get?_insert, if_pos rfl]

theorem get?_insert_of_ne (answers : Answers) {id id' : ItemId} (h : id' ≠ id) (value : Json) :
    (answers.insert id value).get? id' = answers.get? id' := by
  rw [get?_insert, if_neg h]

/-- What is selected on a question depends on its answer alone. -/
theorem selects_congr {answers answers' : Answers} {question : ItemId}
    (h : answers.get? question = answers'.get? question) (option : ItemId) :
    answers.selects question option = answers'.selects question option := by
  unfold selects given?
  rw [h]

theorem selects_of_given?_eq_none {answers : Answers} {question : ItemId}
    (h : answers.given? question = none) (option : ItemId) :
    answers.selects question option = false := by
  unfold selects
  rw [h]

end Answers

section Insert
variable {rules : List Rule} {before after : Answers} {id : ItemId} {value : Json}

theorem Rule.fires_congr {r : Rule} {answers answers' : Answers}
    (h : ∀ question, r.trigger = some question →
      answers.get? question = answers'.get? question) :
    r.Fires answers ↔ r.Fires answers' :=
  Rule.fires_of_selects fun question ht option => Answers.selects_congr (h question ht) option

/-- **What is visible before an answer and in some set with it is visible right after it**, if the
question was open: a rule that shows was matched by other answers, and one that hides would hide in
either set. -/
theorem isVisible_insert (hopen : before.given? id = none) (hafter : after.get? id = some value)
    {q : Question} (h : isVisible q rules before = true) (h' : isVisible q rules after = true) :
    isVisible q rules (before.insert id value) = true := by
  rw [isVisible_iff_policy] at h h' ⊢
  obtain ⟨hhide, hshow⟩ := h
  refine ⟨fun r hr hconcerns haction hfires => ?_, ?_⟩
  · by_cases ht : r.trigger = some id
    · -- the answer itself hides, and so it does afterwards
      have hsame : r.Fires (before.insert id value) ↔ r.Fires after :=
        Rule.fires_congr fun question hq => by
          rw [ht] at hq
          obtain rfl := Option.some.inj hq
          rw [Answers.get?_insert_self, hafter]
      exact h'.1 r hr hconcerns haction (hsame.mp hfires)
    · have hsame : r.Fires (before.insert id value) ↔ r.Fires before :=
        Rule.fires_congr fun question hq =>
          Answers.get?_insert_of_ne _ (fun heq => ht (by rw [hq, heq])) _
      exact hhide r hr hconcerns haction (hsame.mp hfires)
  · rcases hshow with hnone | ⟨r, hr, hconcerns, haction, hfires⟩
    · exact .inl hnone
    · -- the rule that shows was not triggered by the open question
      obtain ⟨question, option, ht, ho, hs⟩ := hfires
      have hne : question ≠ id := by
        rintro rfl
        rw [Answers.selects_of_given?_eq_none hopen] at hs
        cases hs
      refine .inr ⟨r, hr, hconcerns, haction, question, option, ht, ho, ?_⟩
      rw [Answers.selects_congr (Answers.get?_insert_of_ne before hne value)]
      exact hs

end Insert

/-! ### What a respondent sees -/

/-- The respondent sees the question. -/
def Seen (form : Form) (answers : Answers) (q : Question) : Prop :=
  ∃ e, Shown form answers e ∧ e.question = q

section Seen
variable {form : Form} {before after : Answers} {q : Question}

theorem Seen.mem {answers : Answers} (h : Seen form answers q) : q ∈ form.questions := by
  obtain ⟨e, he, rfl⟩ := h
  exact he.isEntry.mem

theorem Seen.isVisible {answers : Answers} (h : Seen form answers q) :
    isVisible q form.rules answers = true := by
  obtain ⟨e, he, rfl⟩ := h
  exact (leads_iff.mp he).2

/-- What has no parent is seen when its own rules show it. -/
theorem seen_iff_of_top {answers : Answers} (hq : q ∈ form.questions) (htop : q.parentId = none) :
    Seen form answers q ↔ Questionnaire.isVisible q form.rules answers = true := by
  constructor
  · exact Seen.isVisible
  · intro hvisible
    obtain ⟨e, he, rfl⟩ := exists_isEntry hq
    exact ⟨e, .top he htop hvisible, rfl⟩

/-- Where no id is repeated, the map shows the questions that are seen. -/
theorem getD_effectiveVisibility_iff_seen (hids : form.DistinctIds) (answers : Answers)
    (hq : q ∈ form.questions) :
    (form.effectiveVisibility answers)[q.id.text]?.getD false = true ↔ Seen form answers q := by
  obtain ⟨e, he, rfl⟩ := exists_isEntry hq
  rw [getD_effectiveVisibility_iff hids he]
  constructor
  · intro h
    exact ⟨e, h, rfl⟩
  · rintro ⟨e', he', heq⟩
    rwa [he.eq_of_id hids he'.isEntry (by rw [heq])]

/-- What is seen stands in the outline, and the map shows it. -/
theorem exists_node_of_seen (hids : form.DistinctIds) {answers : Answers}
    (h : Seen form answers q) :
    ∃ node ∈ (ofQuestions form.questions).reachable, node.question = q ∧
      (form.effectiveVisibility answers)[q.id.text]?.getD false = true := by
  have hmap := (getD_effectiveVisibility_iff_seen hids answers h.mem).mpr h
  obtain ⟨e, he, heq⟩ := h
  obtain ⟨node, hnode, hq⟩ := mem_walk_iff.mpr ⟨e, he.mono fun _ _ => rfl, heq⟩
  exact ⟨node, hnode, hq, hmap⟩

/-- What stands in the outline is seen when the map shows it. -/
theorem seen_of_node (hids : form.DistinctIds) {answers : Answers} {node : Node}
    (hnode : node ∈ (ofQuestions form.questions).reachable)
    (hvisible : (form.effectiveVisibility answers)[node.question.id.text]?.getD false = true) :
    Seen form answers node.question := by
  obtain ⟨e, he, hq⟩ := mem_walk_iff.mp ⟨node, hnode, rfl⟩
  exact (getD_effectiveVisibility_iff_seen hids answers (hq ▸ he.isEntry.mem)).mp hvisible

/-- Where no id is repeated, one chain of sections leads up, by either test. -/
theorem leads_and {questions : List Question} (hids : (questions.map (·.id)).Nodup)
    {keep keep' : Question → Bool} {e : Entry} (h : Leads questions keep e)
    (h' : Leads questions keep' e) : Leads questions (fun q => keep q && keep' q) e := by
  induction h with
  | top entry noParent kept =>
    exact .top entry noParent (by rw [kept, (leads_iff.mp h').2]; rfl)
  | @under e parent above isSection entry names kept ih =>
    obtain ⟨⟨-, hnone | ⟨parent', above', -, names'⟩⟩, kept'⟩ := leads_iff.mp h'
    · rw [names] at hnone; cases hnone
    · rw [names] at names'
      have heq : parent = parent' :=
        above.isEntry.eq_of_id hids above'.isEntry (Option.some.inj names')
      exact .under (ih (heq ▸ above')) isSection entry names (by rw [kept, kept']; rfl)

/-- **A question that its own answer hides stays hidden** as long as it has that answer. -/
theorem not_seen_of_hidden (hids : form.DistinctIds) {id : ItemId} {value : Json}
    (hopen : before.given? id = none) (hseen : Seen form before q)
    (hhidden : ¬ Seen form (before.insert id value) q) (hafter : after.get? id = some value) :
    ¬ Seen form after q := by
  rintro ⟨e, he, rfl⟩
  obtain ⟨e', he', heq⟩ := hseen
  obtain rfl := he'.isEntry.eq_of_id hids he.isEntry (by rw [heq])
  refine hhidden ⟨e', (leads_and hids he' he).mono fun q hq => ?_, rfl⟩
  rw [Bool.and_eq_true] at hq
  exact isVisible_insert hopen hafter hq.1 hq.2

end Seen

end Questionnaire
