import Questionnaire.Proofs.Preview.Outcome
import Questionnaire.Proofs.Validation.Report
import Questionnaire.Service.Bundled

/-! # Answers out of sight

An answer may stay behind when its question is hidden. Such stale answers count for nothing
(`stale_answers_do_not_leak`): as long as no rule is triggered by them, two sets of answers that
differ out of sight only (`SameInSight`) show the same questions, compile to the same document, ask
for the same next, and are found to have the same problems and to miss the same. Nothing is assumed
of the form; a trigger may itself be hidden, and an id may be shown by another entry that has it. -/

namespace Questionnaire

open Outline

variable {form : Form} {answers answers' : Answers}

/-- **The answers differ out of sight only**: they are the same at the triggers of the rules, and at
the ids that the first of them show. -/
structure SameInSight (form : Form) (answers answers' : Answers) : Prop where
  triggers : ∀ r ∈ form.rules, ∀ id, r.trigger = some id → answers.get? id = answers'.get? id
  shown : ∀ id : ItemId, (form.effectiveVisibility answers)[id.text]? = some true →
    answers.get? id = answers'.get? id

theorem SameInSight.saySame (h : SameInSight form answers answers') :
    SaySame form answers answers' where
  triggers := fun r hr id htrigger => Answers.textsAt_congr (h.triggers r hr id htrigger)
  shown := fun id hshown => Answers.textsAt_congr (h.shown id hshown)

/-! ### Validation -/

/-- Only questions that the map shows are looked at. -/
theorem shown_of_mem_visibleLeaves {q : Question}
    (h : q ∈ form.visibleLeaves (form.effectiveVisibility answers)) :
    (form.effectiveVisibility answers)[q.id.text]? = some true := by
  obtain ⟨-, hq⟩ := List.mem_filter.mp h
  rw [Bool.and_eq_true, getD_false_iff] at hq
  exact hq.2

theorem SameInSight.given?_eq (h : SameInSight form answers answers') {q : Question}
    (hq : q ∈ form.visibleLeaves (form.effectiveVisibility answers)) :
    answers.given? q.id = answers'.given? q.id := by
  unfold Answers.given?
  rw [h.shown q.id (shown_of_mem_visibleLeaves hq)]

theorem SameInSight.same_errors (h : SameInSight form answers answers') :
    (form.validate answers).errors = (form.validate answers').errors := by
  have hmap : form.effectiveVisibility answers = form.effectiveVisibility answers' :=
    h.saySame.sameEffect.effective
  rw [errors_eq, errors_eq, ← hmap]
  refine List.filterMap_congr fun q hq => ?_
  unfold Form.errorOf
  rw [h.given?_eq hq]

theorem SameInSight.same_missingRequired (h : SameInSight form answers answers') :
    (form.validate answers).missingRequired = (form.validate answers').missingRequired := by
  have hmap : form.effectiveVisibility answers = form.effectiveVisibility answers' :=
    h.saySame.sameEffect.effective
  have hopen : (form.visibleLeaves (form.effectiveVisibility answers)).filter
      (fun q => q.required && !answers.isAnswered q.id) =
        (form.visibleLeaves (form.effectiveVisibility answers)).filter
          fun q => q.required && !answers'.isAnswered q.id := by
    refine List.filter_congr fun q hq => ?_
    unfold Answers.isAnswered
    rw [h.given?_eq hq]
  rw [missingRequired_eq, missingRequired_eq, hopen, hmap]

/-! ### Stale answers -/

/-- **Stale answers do not leak.** Where two sets of answers differ out of sight only, they have the
same effect, and validation finds the same problems and misses the same answers. -/
theorem stale_answers_do_not_leak (form : Form) (answers answers' : Answers)
    (h : SameInSight form answers answers') :
    SameEffect form answers answers' ∧
      (form.validate answers).errors = (form.validate answers').errors ∧
      (form.validate answers).missingRequired = (form.validate answers').missingRequired :=
  ⟨h.saySame.sameEffect, h.same_errors, h.same_missingRequired⟩

/-- The answer of a referral by a practitioner, which hides the section on the specialist and the
remarks. -/
def practitionerAnswers : Answers := ⟨[("3", .str "31")]⟩

/-- The same with answers that have stayed behind in both. -/
def staleAnswers : Answers := ⟨[("3", .str "31"), ("5", .str "Knee"), ("9", .str "None")]⟩

theorem sameInSight_stale :
    SameInSight Service.bundledForm practitionerAnswers staleAnswers := by
  -- the remarks are hidden by a rule about them, the specialism goes with its section
  have hremarks : (Service.bundledForm.effectiveVisibility practitionerAnswers)["9"]? ≠
      some true := by
    intro hshown
    obtain ⟨e, he, hid⟩ := effectiveVisibility_eq_true_iff.mp hshown
    have hhidden : ∀ q ∈ Service.bundledForm.questions, q.id.text = "9" →
        isVisible q Service.bundledForm.rules practitionerAnswers = false := by decide +kernel
    have hvisible := (leads_iff.mp he).2
    rw [hhidden _ he.isEntry.mem hid] at hvisible
    cases hvisible
  have hspecialism : (Service.bundledForm.effectiveVisibility practitionerAnswers)["5"]? ≠
      some true := by
    intro hshown
    obtain ⟨e, he, hid⟩ := effectiveVisibility_eq_true_iff.mp hshown
    have hunder : ∀ q ∈ Service.bundledForm.questions, q.id.text = "5" →
        q.parentId = some ⟨"4"⟩ := by decide
    have hhidden : ∀ q ∈ Service.bundledForm.questions, q.id = ⟨"4"⟩ →
        isVisible q Service.bundledForm.rules practitionerAnswers = false := by decide +kernel
    have hparent := hunder _ he.isEntry.mem hid
    obtain ⟨⟨-, hnone | ⟨parent, habove, -, hnames⟩⟩, -⟩ := leads_iff.mp he
    · rw [hparent] at hnone
      cases hnone
    · rw [hparent] at hnames
      have hvisible := (leads_iff.mp habove).2
      rw [hhidden _ habove.isEntry.mem (Option.some.inj hnames).symm] at hvisible
      cases hvisible
  constructor
  · intro r hr id htrigger
    have htriggers : ∀ r ∈ Service.bundledForm.rules, r.trigger = some ⟨"3"⟩ ∨
        r.trigger = some ⟨"7"⟩ := by decide
    rcases htriggers r hr with h | h
    · rw [h] at htrigger
      obtain rfl := Option.some.inj htrigger
      rfl
    · rw [h] at htrigger
      obtain rfl := Option.some.inj htrigger
      rfl
  · intro id hshown
    have hnine : id.text ≠ "9" := fun h => hremarks (h ▸ hshown)
    have hfive : id.text ≠ "5" := fun h => hspecialism (h ▸ hshown)
    simp [practitionerAnswers, staleAnswers, Answers.get?, Members.lookup, hnine, hfive]

/-- Answers about a specialist and remarks that have stayed behind make no difference. -/
theorem stale_answers_do_not_leak_bundled :
    SameInSight Service.bundledForm practitionerAnswers staleAnswers ∧
      SameEffect Service.bundledForm practitionerAnswers staleAnswers ∧
      (Service.bundledForm.validate practitionerAnswers).errors =
        (Service.bundledForm.validate staleAnswers).errors ∧
      (Service.bundledForm.validate practitionerAnswers).missingRequired =
        (Service.bundledForm.validate staleAnswers).missingRequired :=
  ⟨sameInSight_stale, stale_answers_do_not_leak _ _ _ sameInSight_stale⟩

end Questionnaire
