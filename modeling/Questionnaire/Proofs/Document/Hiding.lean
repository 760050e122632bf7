import Questionnaire.Proofs.Document.Agreement

/-! # Rules that hide only take away

A rule that hides can make the decision about a question go one way only, wherever it stands among
the others and whatever it says (`isVisible_of_hiding`). So the walk leaves out more subtrees and
comes to nothing new. Where no id is repeated, what it still comes to stands where it stood: both
walks are the walk of the whole form, less what their maps do not show, and the one map shows less
than the other (`hiding_only_takes_away`). -/

namespace Questionnaire

open Outline

variable {form : Form} {answers : Answers} {rules rules' : List Rule}

/-- **The rules of the one list are among those of the other**, which hides by all that it has
besides. -/
structure AddsHiding (rules rules' : List Rule) : Prop where
  keeps : ∀ r ∈ rules, r ∈ rules'
  hides : ∀ r ∈ rules', r ∈ rules ∨ r.action = .makeHidden

theorem addsHiding_insert {r : Rule} (h : r.action = .makeHidden) (before after : List Rule) :
    AddsHiding (before ++ after) (before ++ r :: after) where
  keeps := by
    intro r' hr'
    rcases List.mem_append.mp hr' with hr' | hr'
    · exact List.mem_append_left _ hr'
    · exact List.mem_append_right _ (List.mem_cons_of_mem _ hr')
  hides := by
    intro r' hr'
    rcases List.mem_append.mp hr' with hr' | hr'
    · exact .inl (List.mem_append_left _ hr')
    · rcases List.mem_cons.mp hr' with rfl | hr'
      · exact .inr h
      · exact .inl (List.mem_append_right _ hr')

/-- What the rules show with others that hide, they show without them. -/
theorem Policy.of_hiding (h : AddsHiding rules rules') {id : ItemId}
    (hpolicy : Policy rules' id answers) : Policy rules id answers := by
  obtain ⟨hhide, hshow⟩ := hpolicy
  refine ⟨fun r hr => hhide r (h.keeps r hr), hshow.imp (fun hnone r hr => ?_) ?_⟩
  · exact hnone r (h.keeps r hr)
  · rintro ⟨r, hr, hconcerns, haction, hfires⟩
    rcases h.hides r hr with hmem | hhidden
    · exact ⟨r, hmem, hconcerns, haction, hfires⟩
    · rw [haction] at hhidden
      cases hhidden

theorem isVisible_of_hiding (h : AddsHiding rules rules') (q : Question)
    (hvisible : isVisible q rules' answers = true) : isVisible q rules answers = true :=
  (isVisible_iff_policy q rules answers).mpr
    (((isVisible_iff_policy q rules' answers).mp hvisible).of_hiding h)

/-- The map of a form shows no more with further rules that hide. Ids may repeat. -/
theorem effectiveVisibility_of_hiding (h : AddsHiding form.rules rules) {id : String}
    (hshown : ({ form with rules := rules }.effectiveVisibility answers)[id]? = some true) :
    (form.effectiveVisibility answers)[id]? = some true := by
  obtain ⟨e, he, rfl⟩ := effectiveVisibility_eq_true_iff.mp hshown
  exact effectiveVisibility_of_shown (he.mono fun q => isVisible_of_hiding h q)

/-- **What is still seen stands where it stood.** -/
theorem visibleNodes_sublist_of_hiding (hids : form.DistinctIds)
    (h : AddsHiding form.rules rules) :
    ({ form with rules := rules }.visibleNodes answers).Sublist (form.visibleNodes answers) := by
  have hids' : { form with rules := rules }.DistinctIds := hids
  rw [visibleNodes_eq_filter hids, visibleNodes_eq_filter hids']
  refine List.monotone_filter_right _ fun node hnode => ?_
  rw [getD_false_iff] at hnode ⊢
  exact effectiveVisibility_of_hiding h hnode

/-- **A rule that hides only takes away.** Put anywhere among the rules of a form that repeats no
id, it leaves of the document some of the blocks, as they were and in their order, and makes no
question visible that was not. -/
theorem hiding_only_takes_away (form : Form) (hids : form.DistinctIds) (answers : Answers)
    (rule : Rule) (hhides : rule.action = .makeHidden) (before after : List Rule)
    (hrules : form.rules = before ++ after) :
    ({ form with rules := before ++ rule :: after }.compile answers).blocks.Sublist
        (form.compile answers).blocks ∧
      ∀ id : String,
        ({ form with rules := before ++ rule :: after }.effectiveVisibility answers)[id]? =
            some true →
          (form.effectiveVisibility answers)[id]? = some true := by
  have hadds : AddsHiding form.rules (before ++ rule :: after) := by
    rw [hrules]
    exact addsHiding_insert hhides before after
  exact ⟨(visibleNodes_sublist_of_hiding hids hadds).map _,
    fun id hshown => effectiveVisibility_of_hiding hadds hshown⟩

/-- A rule for the bundled form that hides all about the client when a specialist refers. -/
def clientRule : Rule := Service.bundledRule "4" "1" "3" "32" .makeHidden

/-- The rule put behind the first one of the bundled form, where it hides the section about the
client and with it the question that it waits for. -/
theorem hiding_only_takes_away_client :
    Service.bundledForm.DistinctIds ∧ clientRule.action = .makeHidden ∧
      Service.bundledForm.rules =
        Service.bundledForm.rules.take 1 ++ Service.bundledForm.rules.drop 1 ∧
      ({ Service.bundledForm with
          rules := Service.bundledForm.rules.take 1 ++ clientRule ::
            Service.bundledForm.rules.drop 1 }.compile ⟨[("3", .str "32")]⟩).blocks.Sublist
        (Service.bundledForm.compile ⟨[("3", .str "32")]⟩).blocks ∧
      ∀ q ∈ Service.bundledForm.questions.head?,
        isVisible q Service.bundledForm.rules ⟨[("3", .str "32")]⟩ = true ∧
          isVisible q (Service.bundledForm.rules.take 1 ++ clientRule ::
            Service.bundledForm.rules.drop 1) ⟨[("3", .str "32")]⟩ = false :=
  ⟨by decide, rfl, rfl, (hiding_only_takes_away _ (by decide) _ clientRule rfl _ _ rfl).1,
    by decide⟩

end Questionnaire
