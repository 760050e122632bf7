import Questionnaire.Proofs.Lookup
import Questionnaire.Proofs.Service.Functions

/-! # The rules as a policy

The rules about a question are evaluated by a fold over a list or over a group of an index, with
three flags. `Policy` says what they decide, without an order: no rule that counts hides the
question, and if any rule that counts shows it, one of those matches. Both evaluators decide the
policy (`isVisible_iff_policy`, `RuleIndex.isVisible_ofRules`), so only which rules a form has
matters, not where or how often they stand (`effectiveVisibility_of_mem_iff`). -/

namespace Questionnaire

/-! ### The policy -/

/-- The rule counts for a question: it is about it, and another question triggers it. -/
def Rule.Concerns (r : Rule) (id : ItemId) : Prop := r.target = some id ∧ r.trigger ≠ some id

/-- Trigger and option are set, and the answer to the trigger selects the option. -/
def Rule.Fires (r : Rule) (answers : Answers) : Prop :=
  ∃ question option, r.trigger = some question ∧ r.option = some option ∧
    answers.selects question option = true

/-- **What the rules decide about a question.** -/
def Policy (rules : List Rule) (id : ItemId) (answers : Answers) : Prop :=
  (∀ r ∈ rules, r.Concerns id → r.action = .makeHidden → ¬ r.Fires answers) ∧
    ((∀ r ∈ rules, r.Concerns id → r.action ≠ .makeVisible) ∨
      ∃ r ∈ rules, r.Concerns id ∧ r.action = .makeVisible ∧ r.Fires answers)

theorem Rule.targets_iff {r : Rule} {id : ItemId} : r.targets id = true ↔ r.target = some id := by
  simp [Rule.targets]

theorem Rule.matchesAnswers_iff {r : Rule} {answers : Answers} :
    r.matchesAnswers answers = true ↔ r.Fires answers := by
  obtain ⟨id, target, trigger, option, action⟩ := r
  unfold Rule.matchesAnswers Rule.triggerPair? Rule.Fires
  cases trigger <;> cases option <;> simp

theorem policy_congr {rules rules' : List Rule} (h : ∀ r, r ∈ rules ↔ r ∈ rules') (id : ItemId)
    (answers : Answers) : Policy rules id answers ↔ Policy rules' id answers := by
  simp only [Policy, h]

/-- A rule that matches one set of answers matches any in which the same is selected on its trigger. -/
theorem Rule.Fires.of_selects {r : Rule} {answers answers' : Answers}
    (h : ∀ question, r.trigger = some question → ∀ option,
      answers.selects question option = answers'.selects question option)
    (hfires : r.Fires answers) : r.Fires answers' := by
  obtain ⟨question, option, htrigger, hoption, hselects⟩ := hfires
  refine ⟨question, option, htrigger, hoption, ?_⟩
  rw [← h question htrigger]
  exact hselects

theorem Rule.fires_of_selects {r : Rule} {answers answers' : Answers}
    (h : ∀ question, r.trigger = some question → ∀ option,
      answers.selects question option = answers'.selects question option) :
    r.Fires answers ↔ r.Fires answers' :=
  ⟨fun hfires => hfires.of_selects h,
    fun hfires => hfires.of_selects fun question ht option => (h question ht option).symm⟩

/-- The policy depends on which rules match alone. -/
theorem Policy.of_fires {rules : List Rule} {id : ItemId} {answers answers' : Answers}
    (h : ∀ r ∈ rules, (r.Fires answers ↔ r.Fires answers')) (hpolicy : Policy rules id answers) :
    Policy rules id answers' := by
  obtain ⟨hhide, hshow⟩ := hpolicy
  constructor
  · intro r hr hconcerns haction hfires
    exact hhide r hr hconcerns haction ((h r hr).mpr hfires)
  · rcases hshow with hnone | ⟨r, hr, hconcerns, haction, hfires⟩
    · exact .inl hnone
    · exact .inr ⟨r, hr, hconcerns, haction, (h r hr).mp hfires⟩

/-! ### The fold -/

section Fold
variable (target : ItemId) (answers : Answers)

/-- A rule of the list, triggered by another question, has the action. -/
def Acts (rules : List Rule) (action : RuleAction) : Prop :=
  ∃ r ∈ rules, r.trigger ≠ some target ∧ r.action = action

/-- A rule of the list, triggered by another question, has the action and matches. -/
def ActsNow (rules : List Rule) (action : RuleAction) : Prop :=
  ∃ r ∈ rules, r.trigger ≠ some target ∧ r.action = action ∧ r.Fires answers

theorem acts_cons {r : Rule} {rules : List Rule} {action : RuleAction} :
    Acts target (r :: rules) action ↔
      (r.trigger ≠ some target ∧ r.action = action) ∨ Acts target rules action := by
  simp [Acts]

theorem actsNow_cons {r : Rule} {rules : List Rule} {action : RuleAction} :
    ActsNow target answers (r :: rules) action ↔
      (r.trigger ≠ some target ∧ r.action = action ∧ r.Fires answers) ∨
        ActsNow target answers rules action := by
  simp [ActsNow]

/-- One rule more: each flag is raised by the rules of its kind alone. -/
theorem Evidence.add_flags (e : Evidence) (r : Rule) :
    ((e.add target answers r).hasShow = true ↔
      e.hasShow = true ∨ (r.trigger ≠ some target ∧ r.action = .makeVisible)) ∧
    ((e.add target answers r).showMatched = true ↔ e.showMatched = true ∨
      (r.trigger ≠ some target ∧ r.action = .makeVisible ∧ r.Fires answers)) ∧
    ((e.add target answers r).hideMatched = true ↔ e.hideMatched = true ∨
      (r.trigger ≠ some target ∧ r.action = .makeHidden ∧ r.Fires answers)) := by
  unfold Evidence.add
  by_cases hself : r.trigger = some target
  · simp [hself]
  · rw [if_neg hself]
    cases haction : r.action with
    | makeVisible => simp [hself, Rule.matchesAnswers_iff]
    | makeHidden => simp [hself, Rule.matchesAnswers_iff]
    | unknown => simp

/-- **The flags after a list of rules.** -/
theorem foldl_add_flags (rules : List Rule) (e : Evidence) :
    ((rules.foldl (Evidence.add target answers) e).hasShow = true ↔
      e.hasShow = true ∨ Acts target rules .makeVisible) ∧
    ((rules.foldl (Evidence.add target answers) e).showMatched = true ↔
      e.showMatched = true ∨ ActsNow target answers rules .makeVisible) ∧
    ((rules.foldl (Evidence.add target answers) e).hideMatched = true ↔
      e.hideMatched = true ∨ ActsNow target answers rules .makeHidden) := by
  induction rules generalizing e with
  | nil => simp [Acts, ActsNow]
  | cons r rules ih =>
    obtain ⟨h1, h2, h3⟩ := ih (e.add target answers r)
    obtain ⟨f1, f2, f3⟩ := e.add_flags target answers r
    rw [List.foldl_cons]
    refine ⟨?_, ?_, ?_⟩
    · rw [h1, f1, acts_cons, or_assoc]
    · rw [h2, f2, actsNow_cons, or_assoc]
    · rw [h3, f3, actsNow_cons, or_assoc]

theorem Evidence.visible_iff (e : Evidence) :
    e.visible = true ↔ ¬ e.hideMatched = true ∧ (¬ e.hasShow = true ∨ e.showMatched = true) := by
  obtain ⟨hasShow, showMatched, hideMatched⟩ := e
  cases hasShow <;> cases showMatched <;> cases hideMatched <;> decide

theorem decideVisible_iff (rules : List Rule) :
    decideVisible target rules answers = true ↔
      ¬ ActsNow target answers rules .makeHidden ∧
        (¬ Acts target rules .makeVisible ∨ ActsNow target answers rules .makeVisible) := by
  obtain ⟨h1, h2, h3⟩ := foldl_add_flags target answers rules {}
  rw [decideVisible, Evidence.visible_iff, h1, h2, h3]
  simp

end Fold

/-! ### Both evaluators -/

/-- **The evaluator over a list decides the policy.** -/
theorem isVisible_iff_policy (q : Question) (rules : List Rule) (answers : Answers) :
    isVisible q rules answers = true ↔ Policy rules q.id answers := by
  unfold isVisible
  rw [decideVisible_iff]
  simp only [Acts, ActsNow, Policy, Rule.Concerns, List.mem_filter, Rule.targets_iff]
  refine and_congr ⟨fun h r hr hc ha hf => ?_, fun h => ?_⟩ (or_congr ⟨fun h r hr hc ha => ?_,
    fun h => ?_⟩ ⟨?_, ?_⟩)
  · exact h ⟨r, ⟨hr, hc.1⟩, hc.2, ha, hf⟩
  · rintro ⟨r, ⟨hr, ht⟩, hs, ha, hf⟩
    exact h r hr ⟨ht, hs⟩ ha hf
  · exact h ⟨r, ⟨hr, hc.1⟩, hc.2, ha⟩
  · rintro ⟨r, ⟨hr, ht⟩, hs, ha⟩
    exact h r hr ⟨ht, hs⟩ ha
  · rintro ⟨r, ⟨hr, ht⟩, hs, ha, hf⟩
    exact ⟨r, hr, ⟨ht, hs⟩, ha, hf⟩
  · rintro ⟨r, hr, ⟨ht, hs⟩, ha, hf⟩
    exact ⟨r, ⟨hr, ht⟩, hs, ha, hf⟩

theorem RuleIndex.rulesFor_ofRules (rules : List Rule) (target : ItemId) :
    (ofRules rules).rulesFor target = rules.filter (·.targets target) := by
  unfold rulesFor ofRules
  rw [Grouping.group_ofList]
  refine List.filter_congr fun r _ => ?_
  cases hr : r.target with
  | none => simp [Rule.targets, hr]
  | some id => simp [Rule.targets, hr, ItemId.ext_iff]

/-- **The index decides as the list does.** -/
theorem RuleIndex.isVisible_ofRules (rules : List Rule) (q : Question) (answers : Answers) :
    (ofRules rules).isVisible q answers = Questionnaire.isVisible q rules answers := by
  unfold isVisible Questionnaire.isVisible
  rw [rulesFor_ofRules]

theorem isVisible_of_mem_iff {rules rules' : List Rule} (h : ∀ r, r ∈ rules ↔ r ∈ rules')
    (q : Question) (answers : Answers) : isVisible q rules answers = isVisible q rules' answers := by
  rw [Bool.eq_iff_iff, isVisible_iff_policy, isVisible_iff_policy, policy_congr h]

/-- A question is visible in both sets of answers when the same rules match. -/
theorem isVisible_of_fires_iff {rules : List Rule} {answers answers' : Answers}
    (h : ∀ r ∈ rules, (r.Fires answers ↔ r.Fires answers')) (q : Question) :
    isVisible q rules answers = isVisible q rules answers' := by
  rw [Bool.eq_iff_iff, isVisible_iff_policy, isVisible_iff_policy]
  exact ⟨fun hpolicy => hpolicy.of_fires h,
    fun hpolicy => hpolicy.of_fires fun r hr => (h r hr).symm⟩

/-- The rules of a question depend on its id alone. -/
theorem isVisible_congr_id {q q' : Question} (h : q.id = q'.id) (rules : List Rule)
    (answers : Answers) : isVisible q rules answers = isVisible q' rules answers := by
  unfold isVisible
  rw [h]

/-! ### The maps -/

section Maps
variable {form : Form} {answers : Answers}

theorem ownVisibility_of_mem {q : Question} (hq : q ∈ form.questions) :
    (form.ownVisibility answers)[q.id.text]? = some (isVisible q form.rules answers) := by
  unfold Form.ownVisibility
  refine foldl_insert_of_mem _ _ ⟨q, hq, rfl⟩ (fun q' _ hk => ?_) ∅
  rw [RuleIndex.isVisible_ofRules]
  exact isVisible_congr_id (ItemId.ext hk) _ _

theorem ownVisibility_of_not_mem {id : String} (h : ∀ q ∈ form.questions, q.id.text ≠ id) :
    (form.ownVisibility answers)[id]? = none := by
  unfold Form.ownVisibility
  rw [foldl_insert_of_not_mem _ _ h]
  simp

section Decisions
variable {rules : List Rule} {answers' : Answers}

/-- The questions' own decisions depend on what the rules decide alone. -/
theorem ownVisibility_of_isVisible
    (h : ∀ q, isVisible q rules answers' = isVisible q form.rules answers) :
    { form with rules := rules }.ownVisibility answers' = form.ownVisibility answers := by
  simp only [Form.ownVisibility, RuleIndex.isVisible_ofRules, h]

/-- The questions that a respondent sees depend on what the rules decide alone. -/
theorem visibleNodes_of_isVisible
    (h : ∀ q, isVisible q rules answers' = isVisible q form.rules answers) :
    { form with rules := rules }.visibleNodes answers' = form.visibleNodes answers := by
  simp only [Form.visibleNodes, RuleIndex.isVisible_ofRules, h]

/-- What a respondent sees depends on what the rules decide alone. -/
theorem effectiveVisibility_of_isVisible
    (h : ∀ q, isVisible q rules answers' = isVisible q form.rules answers) :
    { form with rules := rules }.effectiveVisibility answers' =
      form.effectiveVisibility answers := by
  unfold Form.effectiveVisibility
  rw [visibleNodes_of_isVisible h]
  rfl

end Decisions

/-- The questions' own decisions depend on which rules there are, not on their order. -/
theorem ownVisibility_of_mem_iff {rules : List Rule} (h : ∀ r, r ∈ form.rules ↔ r ∈ rules) :
    { form with rules := rules }.ownVisibility answers = form.ownVisibility answers :=
  ownVisibility_of_isVisible fun q => (isVisible_of_mem_iff h q answers).symm

/-- What a respondent sees depends on which rules there are, not on their order. -/
theorem effectiveVisibility_of_mem_iff {rules : List Rule} (h : ∀ r, r ∈ form.rules ↔ r ∈ rules) :
    { form with rules := rules }.effectiveVisibility answers = form.effectiveVisibility answers :=
  effectiveVisibility_of_isVisible fun q => (isVisible_of_mem_iff h q answers).symm

end Maps

/-! ### The service -/

namespace Service

/-- The value that the map of a form has at an id, as its object shows it. -/
theorem field?_ownVisibility (form : Form) (answers : Answers) (id : String) :
    (form.ownVisibility answers).toJson.field? id =
      (form.ownVisibility answers)[id]?.map Json.bool :=
  Members.lookup_map_toList Json.bool _ id

/-- **One question is answered as the map of all questions has it.** -/
theorem questionVisible_agrees {formId config : String} {form : Form}
    (h : loadForm formId config = .ok form) (answers id : String) :
    ∃ map, visibility formId config answers = .ok map ∧
      (questionVisible formId config id answers = .error (.questionNotFound id) ↔
        map.field? id = none) ∧
      ∀ value, map.field? id = some value →
        ∃ reply, questionVisible formId config id answers = .ok reply ∧
          reply.field? "visible" = some value := by
  refine ⟨_, visibility_eq h, ?_⟩
  rw [questionVisible_eq h]
  simp only [field?_ownVisibility]
  cases hq : findQuestion form id with
  | error e =>
    obtain ⟨rfl, hno⟩ := findQuestion_eq_error hq
    rw [ownVisibility_of_not_mem hno]
    simp [Except.map]
  | ok q =>
    obtain ⟨hmem, rfl⟩ := findQuestion_eq_ok hq
    rw [ownVisibility_of_mem hmem]
    refine ⟨by simp [Except.map], fun value hvalue => ⟨_, rfl, ?_⟩⟩
    rw [← hvalue, Json.field?_object]
    simp [Members.lookup]

end Service

/-! ### The policy as a whole -/

/-- **The rules decide one policy, whoever asks.** Both evaluators decide it, the order and the
repetition of rules do not count, and the service answers for one question as for all. -/
theorem visibility_follows_policy :
    (∀ (rules : List Rule) (q : Question) (answers : Answers),
      (isVisible q rules answers = true ↔ Policy rules q.id answers) ∧
        (RuleIndex.ofRules rules).isVisible q answers = isVisible q rules answers) ∧
    (∀ (form : Form) (rules : List Rule) (answers : Answers),
      (∀ r, r ∈ form.rules ↔ r ∈ rules) →
        (∀ q, isVisible q rules answers = isVisible q form.rules answers) ∧
        { form with rules := rules }.ownVisibility answers = form.ownVisibility answers ∧
        { form with rules := rules }.effectiveVisibility answers =
          form.effectiveVisibility answers) ∧
    ∀ (formId config : String) (form : Form) (answers id : String),
      Service.loadForm formId config = .ok form →
        ∃ map, Service.visibility formId config answers = .ok map ∧
          (Service.questionVisible formId config id answers = .error (.questionNotFound id) ↔
            map.field? id = none) ∧
          ∀ value, map.field? id = some value →
            ∃ reply, Service.questionVisible formId config id answers = .ok reply ∧
              reply.field? "visible" = some value := by
  refine ⟨fun rules q answers => ⟨isVisible_iff_policy q rules answers,
    RuleIndex.isVisible_ofRules rules q answers⟩, fun form rules answers h => ?_,
    fun formId config form answers id h => Service.questionVisible_agrees h answers id⟩
  exact ⟨fun q => (isVisible_of_mem_iff h q answers).symm, ownVisibility_of_mem_iff h,
    effectiveVisibility_of_mem_iff h⟩

/-- The policy on the bundled form, with its rules in another order and each twice. -/
theorem visibility_follows_policy_bundled :
    (∀ r, r ∈ Service.bundledForm.rules ↔
      r ∈ Service.bundledForm.rules.reverse ++ Service.bundledForm.rules) ∧
    Service.loadForm "12" "" = .ok Service.bundledForm ∧
    (∀ q, isVisible q (Service.bundledForm.rules.reverse ++ Service.bundledForm.rules) .empty =
      isVisible q Service.bundledForm.rules .empty) ∧
    ∃ map, Service.visibility "12" "" "" = .ok map ∧
      (Service.questionVisible "12" "" "404" "" = .error (.questionNotFound "404") ↔
        map.field? "404" = none) := by
  have hmem : ∀ r, r ∈ Service.bundledForm.rules ↔
      r ∈ Service.bundledForm.rules.reverse ++ Service.bundledForm.rules := by simp
  have hload : Service.loadForm "12" "" = .ok Service.bundledForm := rfl
  obtain ⟨map, hmap, hfound, -⟩ :=
    visibility_follows_policy.2.2 "12" "" Service.bundledForm "" "404" hload
  exact ⟨hmem, hload, (visibility_follows_policy.2.1 _ _ .empty hmem).1, map, hmap, hfound⟩

end Questionnaire
