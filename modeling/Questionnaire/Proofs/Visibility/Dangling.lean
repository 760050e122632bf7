import Questionnaire.Proofs.Lint.Findings
import Questionnaire.Proofs.Validation.Report

/-! # Rules that point at nothing

Lint judges a rule by the questions and options of the form, the evaluation by the texts of the
answers, whatever they answer. So a rule whose trigger is no question, or whose option no question
offers, may match all the same (`dangling_rules_hide`). It cannot when the answers are such as the
form asks for: when there is none to the trigger, or one that is a choice among the options of a
question (`dangling_rule_is_inert`). -/

namespace Questionnaire

variable {form : Form} {answers : Answers} {r : Rule}

/-! ### Rules that never match -/

/-- **The rule never matches**, about whichever question it is. -/
def Rule.Silent (r : Rule) (answers : Answers) : Prop := ∀ id, r.Concerns id → ¬ r.Fires answers

namespace Rule.Silent

variable {id : ItemId}

theorem matchesAnswers_eq_false (h : r.Silent answers) (hconcerns : r.Concerns id) :
    r.matchesAnswers answers = false := by
  rw [Bool.eq_false_iff, ne_eq, Rule.matchesAnswers_iff]
  exact h id hconcerns

/-- Evidence is not changed by a rule that hides but never matches. -/
theorem add_hide (h : r.Silent answers) (htarget : r.target = some id)
    (haction : r.action = .makeHidden) (e : Evidence) : e.add id answers r = e := by
  unfold Evidence.add
  split
  · rfl
  · next hself => simp [haction, h.matchesAnswers_eq_false ⟨htarget, hself⟩]

/-- A rule that never matches adds what it would add without its option. -/
theorem add_optionless (h : r.Silent answers) (htarget : r.target = some id) (e : Evidence) :
    e.add id answers { r with option := none } = e.add id answers r := by
  unfold Evidence.add
  split
  · rfl
  · next hself =>
    have hnone : Rule.matchesAnswers { r with option := none } answers = false := by
      unfold Rule.matchesAnswers Rule.triggerPair?
      cases r.trigger <;> rfl
    rw [h.matchesAnswers_eq_false ⟨htarget, hself⟩, hnone]

end Rule.Silent

/-- Rules in the middle of a list may be replaced by others that add the same. -/
theorem isVisible_splice {q : Question} (before after mid mid' : List Rule)
    (h : ∀ e : Evidence, (mid.filter (·.targets q.id)).foldl (Evidence.add q.id answers) e =
      (mid'.filter (·.targets q.id)).foldl (Evidence.add q.id answers) e) :
    isVisible q (before ++ (mid ++ after)) answers =
      isVisible q (before ++ (mid' ++ after)) answers := by
  unfold isVisible decideVisible
  simp only [List.filter_append, List.foldl_append, h]

theorem isVisible_drop (h : r.Silent answers) (haction : r.action = .makeHidden) (q : Question)
    (before after : List Rule) :
    isVisible q (before ++ after) answers = isVisible q (before ++ r :: after) answers := by
  refine (isVisible_splice before after [r] [] fun e => ?_).symm
  by_cases htarget : r.targets q.id = true
  · simp [htarget, h.add_hide (Rule.targets_iff.mp htarget) haction]
  · simp [htarget]

theorem isVisible_optionless (h : r.Silent answers) (q : Question) (before after : List Rule) :
    isVisible q (before ++ { r with option := none } :: after) answers =
      isVisible q (before ++ r :: after) answers := by
  refine isVisible_splice before after [{ r with option := none }] [r] fun e => ?_
  have hsame : Rule.targets { r with option := none } q.id = r.targets q.id := rfl
  by_cases htarget : r.targets q.id = true
  · simp [hsame, htarget, h.add_optionless (Rule.targets_iff.mp htarget)]
  · simp [hsame, htarget]

/-- **The rule does nothing**: it never matches, and what is visible is the same without it, if it
hides, and without its option, if it shows. -/
structure Inert (form : Form) (answers : Answers) (r : Rule) : Prop where
  silent : r.Silent answers
  dropped : r.action = .makeHidden → ∀ before after, form.rules = before ++ r :: after →
    { form with rules := before ++ after }.ownVisibility answers = form.ownVisibility answers ∧
      { form with rules := before ++ after }.effectiveVisibility answers =
        form.effectiveVisibility answers
  optionless : r.action = .makeVisible → ∀ before after, form.rules = before ++ r :: after →
    { form with rules := before ++ { r with option := none } :: after }.ownVisibility answers =
        form.ownVisibility answers ∧
      { form with rules := before ++ { r with option := none } :: after }.effectiveVisibility
          answers = form.effectiveVisibility answers

theorem inert_of_silent (h : r.Silent answers) : Inert form answers r where
  silent := h
  dropped := by
    intro haction before after hrules
    have hsame : ∀ q, isVisible q (before ++ after) answers = isVisible q form.rules answers := by
      intro q
      rw [hrules, isVisible_drop h haction]
    exact ⟨ownVisibility_of_isVisible hsame, effectiveVisibility_of_isVisible hsame⟩
  optionless := by
    intro _ before after hrules
    have hsame : ∀ q, isVisible q (before ++ { r with option := none } :: after) answers =
        isVisible q form.rules answers := by
      intro q
      rw [hrules, isVisible_optionless h]
    exact ⟨ownVisibility_of_isVisible hsame, effectiveVisibility_of_isVisible hsame⟩

/-! ### When a rule that points at nothing never matches -/

theorem silent_of_incomplete (h : r.target = none ∨ r.trigger = none ∨ r.option = none) :
    r.Silent answers := by
  rintro id hconcerns ⟨question, option, htrigger, hoption, -⟩
  rcases h with h | h | h
  · rw [hconcerns.1] at h
    cases h
  · rw [htrigger] at h
    cases h
  · rw [hoption] at h
    cases h

/-- A rule never matches as long as the option is not selected. -/
theorem silent_of_names {target trigger option : ItemId} (parts : r.Names target trigger option)
    (h : answers.selects trigger option = false) : r.Silent answers := by
  rintro id - ⟨question, option', htrigger, hoption, hselects⟩
  obtain rfl := Option.some.inj (parts.trigger.symm.trans htrigger)
  obtain rfl := Option.some.inj (parts.option.symm.trans hoption)
  rw [h] at hselects
  cases hselects

/-- An id that is no question of the form and not reported as such has no answer. -/
theorem given?_of_not_mem_unknownFields {id : ItemId} (hno : form.hasQuestion id.text = false)
    (hfields : id.text ∉ (form.validate answers).unknownFields) : answers.given? id = none := by
  cases hget : answers.get? id with
  | none =>
    unfold Answers.given?
    rw [hget]
    rfl
  | some value =>
    refine absurd (List.mem_filter.mpr ⟨?_, by rw [hno]; rfl⟩) hfields
    exact List.mem_map.mpr ⟨(id.text, value), Members.mem_of_lookup_eq_some hget, rfl⟩

/-- A choice that has no problem selects no option that nobody offers. -/
theorem selects_of_check {q : Question} (hkind : q.kind = .multipleChoice) {trigger option : ItemId}
    {value : Json} (hgiven : answers.given? trigger = some value) (hcheck : q.check value = none)
    (hoffers : q.offers option.text = false) : answers.selects trigger option = false := by
  unfold Answers.selects
  rw [hgiven]
  simp only [List.contains_eq_mem, decide_eq_false_iff_not]
  intro hmem
  rw [offers_of_check hkind hcheck _ hmem] at hoffers
  cases hoffers

/-- **Rules that point at nothing are inert, where the answers point at something.** A rule with a
part missing is inert whatever the answers are. One with an unknown trigger is inert unless the
answers have an unknown field of that name, and one with an unknown option unless its trigger has an
answer that is no choice, or one with a problem. -/
theorem dangling_rule_is_inert (form : Form) (answers : Answers) (r : Rule) :
    (.incomplete r ∈ form.lint → Inert form answers r) ∧
    (∀ trigger, .unknownTrigger r trigger ∈ form.lint →
      trigger.text ∉ (form.validate answers).unknownFields → Inert form answers r) ∧
    ∀ option, .unknownOption r option ∈ form.lint →
      (∀ trigger value, r.trigger = some trigger → answers.given? trigger = some value →
        ∃ q ∈ form.questions, q.id = trigger ∧ q.kind = .multipleChoice ∧ q.check value = none) →
      Inert form answers r := by
  refine ⟨fun h => ?_, fun trigger h hfields => ?_, fun option h hchoice => ?_⟩
  · obtain ⟨-, hfault⟩ := (Form.mem_lint_iff rfl).mp h
    cases hfault with
    | incomplete hpart => exact inert_of_silent (silent_of_incomplete hpart)
  · obtain ⟨-, hfault⟩ := (Form.mem_lint_iff rfl).mp h
    cases hfault with
    | unknownTrigger parts hno =>
      have hopen := given?_of_not_mem_unknownFields hno hfields
      exact inert_of_silent (silent_of_names parts (Answers.selects_of_given?_eq_none hopen _))
  · obtain ⟨-, hfault⟩ := (Form.mem_lint_iff rfl).mp h
    cases hfault with
    | @unknownOption target trigger _ parts hno =>
      refine inert_of_silent (silent_of_names parts ?_)
      cases hgiven : answers.given? trigger with
      | none => exact Answers.selects_of_given?_eq_none hgiven _
      | some value =>
        obtain ⟨q, hq, -, hkind, hcheck⟩ := hchoice trigger value parts.trigger hgiven
        exact selects_of_check hkind hgiven hcheck (hno q hq)

/-! ### Rules that point at nothing and match -/

/-- A rule that hides `u` when the answer to no question at all is `1`. -/
def ghostRule : Rule := ⟨⟨"r"⟩, some ⟨"u"⟩, some ⟨"ghost"⟩, some ⟨"1"⟩, .makeHidden⟩

/-- A rule that hides `v` when a text is `x`. -/
def textRule : Rule := ⟨⟨"s"⟩, some ⟨"v"⟩, some ⟨"q"⟩, some ⟨"x"⟩, .makeHidden⟩

/-- A form with rules that point at nothing. -/
def danglingForm : Form :=
  ⟨⟨"f"⟩, "Dangling", none,
    [⟨⟨"q"⟩, "Name", .freeText, none, 0, false, false, none, none, []⟩,
      ⟨⟨"u"⟩, "First", .freeText, none, 1, false, false, none, none, []⟩,
      ⟨⟨"v"⟩, "Second", .freeText, none, 2, false, false, none, none, []⟩],
    [ghostRule, textRule]⟩

/-- Answers without the option of either rule: both rules are inert. -/
theorem dangling_rule_is_inert_unanswered :
    (.unknownTrigger ghostRule ⟨"ghost"⟩ ∈ danglingForm.lint ∧
        "ghost" ∉ (danglingForm.validate ⟨[("u", .str "1")]⟩).unknownFields ∧
        Inert danglingForm ⟨[("u", .str "1")]⟩ ghostRule) ∧
      .unknownOption textRule ⟨"x"⟩ ∈ danglingForm.lint ∧
        Inert danglingForm ⟨[("u", .str "1")]⟩ textRule := by
  obtain ⟨-, htrigger, -⟩ :=
    dangling_rule_is_inert danglingForm ⟨[("u", .str "1")]⟩ ghostRule
  obtain ⟨-, -, hoption⟩ := dangling_rule_is_inert danglingForm ⟨[("u", .str "1")]⟩ textRule
  have hghost : .unknownTrigger ghostRule ⟨"ghost"⟩ ∈ danglingForm.lint := by decide +kernel
  have htext : .unknownOption textRule ⟨"x"⟩ ∈ danglingForm.lint := by decide +kernel
  have hfields : (danglingForm.validate ⟨[("u", .str "1")]⟩).unknownFields = [] :=
    unknownFields_eq_nil_iff.mpr (by decide)
  refine ⟨⟨hghost, by simp [hfields], htrigger _ hghost (by simp [hfields])⟩, htext,
    hoption _ htext fun trigger value h hgiven => ?_⟩
  obtain rfl := Option.some.inj h
  cases hgiven

/-- **Rules that point at nothing hide questions**, though lint reports the one for its trigger and
the other for its option, and though validation has nothing against the answer in the second case. -/
theorem dangling_rules_hide :
    .unknownTrigger ghostRule ⟨"ghost"⟩ ∈ danglingForm.lint ∧
      .unknownOption textRule ⟨"x"⟩ ∈ danglingForm.lint ∧
      (danglingForm.ownVisibility ⟨[("ghost", .str "1")]⟩)["u"]? = some false ∧
      ({ danglingForm with rules := [textRule] }.ownVisibility
        ⟨[("ghost", .str "1")]⟩)["u"]? = some true ∧
      (danglingForm.validate ⟨[("q", .str "x")]⟩).valid = true ∧
      (danglingForm.ownVisibility ⟨[("q", .str "x")]⟩)["v"]? = some false ∧
      ({ danglingForm with rules := [ghostRule] }.ownVisibility
        ⟨[("q", .str "x")]⟩)["v"]? = some true := by
  exact ⟨by decide +kernel, by decide +kernel, by decide +kernel, by decide +kernel,
    valid_of_all (by decide) (by decide) (by decide), by decide +kernel, by decide +kernel⟩

end Questionnaire
