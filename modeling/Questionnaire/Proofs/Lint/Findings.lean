import Questionnaire.Lint
import Questionnaire.Proofs.Lookup
import Questionnaire.Proofs.Outline.Pruning
import Questionnaire.Validation

/-! # What the findings mean

A form without findings repeats no id (`distinctIds_of_lint`). What is found about a question is
about no rule (`rule?_of_mem_lintQuestions`). The findings about a rule are those that are true of
it (`mem_lint_iff`), and `Fault` says what is true of which: that a part of the rule is not set,
that its target or trigger is no question of the form, that no question of the form offers the
option it waits for. -/

namespace Questionnaire

variable {form : Form} {r : Rule}

namespace Form

/-! ### Ids -/

theorem duplicates_eq_nil_iff {seen : List ItemId} {questions : List Question} :
    duplicates seen questions = [] ↔
      (questions.map (·.id)).Nodup ∧ ∀ q ∈ questions, q.id ∉ seen := by
  induction questions generalizing seen with
  | nil => simp [duplicates]
  | cons q questions ih =>
    have hhead : (if seen.contains q.id then [Finding.duplicateId q.id] else []) = [] ↔
        q.id ∉ seen := by simp
    have hlater : (∀ q' ∈ questions, q'.id ∉ q.id :: seen) ↔
        q.id ∉ questions.map (·.id) ∧ ∀ q' ∈ questions, q'.id ∉ seen := by
      simp only [List.mem_cons, not_or, forall_and, List.mem_map, not_exists, not_and]
    rw [duplicates, List.append_eq_nil_iff, hhead, ih, hlater, List.map_cons, List.nodup_cons,
      List.forall_mem_cons]
    constructor
    · rintro ⟨hseen, hnodup, hnew, hrest⟩
      exact ⟨⟨hnew, hnodup⟩, hseen, hrest⟩
    · rintro ⟨⟨hnew, hnodup⟩, hseen, hrest⟩
      exact ⟨hseen, hnodup, hnew, hrest⟩

/-- **A form without findings repeats no id.** -/
theorem distinctIds_of_lint (h : form.lint = []) : form.DistinctIds := by
  unfold lint lintQuestions at h
  obtain ⟨hquestions, -⟩ := List.append_eq_nil_iff.mp h
  obtain ⟨hduplicates, -⟩ := List.append_eq_nil_iff.mp hquestions
  exact (duplicates_eq_nil_iff.mp hduplicates).1

/-! ### Questions and options that a rule may name -/

theorem contains_ids_iff {id : String} :
    (Std.TreeSet.ofList (form.questions.map fun q => q.id.text)).contains id =
      form.hasQuestion id := by
  rw [Std.TreeSet.contains_ofList, Bool.eq_iff_iff]
  simp [hasQuestion]

/-- Lint counts an option as unknown when no question offers it. -/
theorem optionOwners_eq_none_iff {key : String} :
    form.optionOwners[key]? = none ↔ ∀ q ∈ form.questions, q.offers key = false := by
  -- the map is filled from the options of all questions, each beside its question
  have hfill : form.optionOwners =
      (form.questions.flatMap fun q => q.options.map fun c => (c, q)).foldl
        (fun map entry => map.insert entry.1.id.text entry.2.id.text) ∅ := by
    unfold optionOwners
    simp only [List.foldl_flatMap, List.foldl_map]
  rw [hfill, getElem?_foldl_insert (fun entry : Choice × Question => entry.1.id.text)
    fun entry => entry.2.id.text]
  simp only [Std.TreeMap.getElem?_emptyc, Option.or_none, Option.map_eq_none_iff,
    List.find?_eq_none, List.mem_reverse, List.mem_flatMap, List.mem_map, Question.offers,
    List.any_eq_false]
  constructor
  · intro h q hq c hc
    exact h (c, q) ⟨q, hq, c, hc, rfl⟩
  · rintro h _ ⟨q, hq, c, hc, rfl⟩
    exact h q hq c hc

end Form

/-! ### Findings about places -/

/-- The finding is about where a question stands. -/
def Finding.isPlace : Finding → Bool
  | .missingParent _ _ | .parentNotSection _ _ | .unreachable _ => true
  | _ => false

theorem Finding.rule?_of_isPlace (f : Finding) (h : f.isPlace = true) : f.rule? = none := by
  cases f with
  | missingParent | parentNotSection | unreachable => rfl
  | _ => cases h

/-! ### Findings about rules -/

/-- Target, trigger and option of the rule are set. -/
structure Rule.Names (r : Rule) (target trigger option : ItemId) : Prop where
  target : r.target = some target
  trigger : r.trigger = some trigger
  option : r.option = some option

theorem Rule.incomplete_or_names (r : Rule) :
    (r.target = none ∨ r.trigger = none ∨ r.option = none) ∨
      ∃ target trigger option, r.Names target trigger option := by
  obtain ⟨id, target, trigger, option, action⟩ := r
  rcases target with _ | target
  · exact .inl (.inl rfl)
  · rcases trigger with _ | trigger
    · exact .inl (.inr (.inl rfl))
    · rcases option with _ | option
      · exact .inl (.inr (.inr rfl))
      · exact .inr ⟨target, trigger, option, rfl, rfl, rfl⟩

/-- **The finding is true of the rule.** -/
inductive Fault (form : Form) (r : Rule) : Finding → Prop
  | unknownAction (h : r.action = .unknown) : Fault form r (.unknownAction r)
  | incomplete (h : r.target = none ∨ r.trigger = none ∨ r.option = none) :
      Fault form r (.incomplete r)
  | unknownTarget {target trigger option : ItemId} (parts : r.Names target trigger option)
      (h : form.hasQuestion target.text = false) : Fault form r (.unknownTarget r target)
  | unknownTrigger {target trigger option : ItemId} (parts : r.Names target trigger option)
      (h : form.hasQuestion trigger.text = false) : Fault form r (.unknownTrigger r trigger)
  | selfReference {target option : ItemId} (parts : r.Names target target option) :
      Fault form r (.selfReference r target)
  | unknownOption {target trigger option : ItemId} (parts : r.Names target trigger option)
      (h : ∀ q ∈ form.questions, q.offers option.text = false) :
      Fault form r (.unknownOption r option)
  | optionMismatch {target trigger option : ItemId} {owner : String}
      (parts : r.Names target trigger option) (h : form.optionOwners[option.text]? = some owner)
      (hne : owner ≠ trigger.text) : Fault form r (.optionMismatch r option owner trigger)

theorem Fault.rule? {f : Finding} (h : Fault form r f) : f.rule? = some r := by
  cases h <;> rfl

namespace Form

theorem mem_lintOption_iff {trigger option : ItemId} {f : Finding} :
    f ∈ lintOption form.optionOwners r trigger option ↔
      ((∀ q ∈ form.questions, q.offers option.text = false) ∧ f = .unknownOption r option) ∨
        ∃ owner, form.optionOwners[option.text]? = some owner ∧ owner ≠ trigger.text ∧
          f = .optionMismatch r option owner trigger := by
  unfold lintOption
  rw [← optionOwners_eq_none_iff]
  cases form.optionOwners[option.text]? with
  | none => simp
  | some owner => by_cases h : owner = trigger.text <;> simp [h]

theorem mem_lintRule_of_names {target trigger option : ItemId}
    (parts : r.Names target trigger option) {f : Finding} :
    f ∈ lintRule (.ofList (form.questions.map fun q => q.id.text)) form.optionOwners r ↔
      (r.action = .unknown ∧ f = .unknownAction r) ∨
        (form.hasQuestion target.text = false ∧ f = .unknownTarget r target) ∨
          (form.hasQuestion trigger.text = false ∧ f = .unknownTrigger r trigger) ∨
            (trigger = target ∧ f = .selfReference r target) ∨
              ((∀ q ∈ form.questions, q.offers option.text = false) ∧
                f = .unknownOption r option) ∨
              ∃ owner, form.optionOwners[option.text]? = some owner ∧ owner ≠ trigger.text ∧
                f = .optionMismatch r option owner trigger := by
  unfold lintRule
  rw [parts.target, parts.trigger, parts.option]
  simp only [List.mem_append, List.mem_ite_nil_left, List.mem_ite_nil_right, List.mem_singleton,
    mem_lintOption_iff, contains_ids_iff, Bool.not_eq_true, or_assoc]

theorem mem_lintRule_of_incomplete (h : r.target = none ∨ r.trigger = none ∨ r.option = none)
    {f : Finding} :
    f ∈ lintRule (.ofList (form.questions.map fun q => q.id.text)) form.optionOwners r ↔
      (r.action = .unknown ∧ f = .unknownAction r) ∨ f = .incomplete r := by
  unfold lintRule
  rw [List.mem_append, List.mem_ite_nil_right, List.mem_singleton]
  split
  · next htarget htrigger hoption => simp [htarget, htrigger, hoption] at h
  · rw [List.mem_singleton]

/-- **Lint finds what is true of a rule.** -/
theorem mem_lintRule_iff {f : Finding} :
    f ∈ lintRule (.ofList (form.questions.map fun q => q.id.text)) form.optionOwners r ↔
      Fault form r f := by
  constructor
  · intro hf
    rcases r.incomplete_or_names with h | ⟨target, trigger, option, parts⟩
    · rcases (mem_lintRule_of_incomplete h).mp hf with ⟨haction, rfl⟩ | rfl
      · exact .unknownAction haction
      · exact .incomplete h
    · rcases (mem_lintRule_of_names parts).mp hf with ⟨h, rfl⟩ | ⟨h, rfl⟩ | ⟨h, rfl⟩ | ⟨rfl, rfl⟩ |
        ⟨h, rfl⟩ | ⟨owner, h, hne, rfl⟩
      · exact .unknownAction h
      · exact .unknownTarget parts h
      · exact .unknownTrigger parts h
      · exact .selfReference parts
      · exact .unknownOption parts h
      · exact .optionMismatch parts h hne
  · intro hf
    cases hf with
    | unknownAction h => exact List.mem_append_left _ (by simp [h])
    | incomplete h => exact (mem_lintRule_of_incomplete h).mpr (.inr rfl)
    | unknownTarget parts h =>
      exact (mem_lintRule_of_names parts).mpr (.inr (.inl ⟨h, rfl⟩))
    | unknownTrigger parts h =>
      exact (mem_lintRule_of_names parts).mpr (.inr (.inr (.inl ⟨h, rfl⟩)))
    | selfReference parts =>
      exact (mem_lintRule_of_names parts).mpr (.inr (.inr (.inr (.inl ⟨rfl, rfl⟩))))
    | unknownOption parts h =>
      exact (mem_lintRule_of_names parts).mpr (.inr (.inr (.inr (.inr (.inl ⟨h, rfl⟩)))))
    | optionMismatch parts h hne =>
      exact (mem_lintRule_of_names parts).mpr
        (.inr (.inr (.inr (.inr (.inr ⟨_, h, hne, rfl⟩)))))

theorem exists_of_mem_duplicates {seen : List ItemId} {questions : List Question} {f : Finding}
    (h : f ∈ duplicates seen questions) : ∃ id, f = .duplicateId id := by
  induction questions generalizing seen with
  | nil => cases h
  | cons q questions ih =>
    rcases List.mem_append.mp h with h | h
    · obtain ⟨-, h⟩ := List.mem_ite_nil_right.mp h
      exact ⟨q.id, List.mem_singleton.mp h⟩
    · exact ih h

theorem isPlace_of_mem_lintPlace {byId : Std.TreeMap String Question}
    {reachable : Std.TreeSet String} {q : Question} {f : Finding}
    (h : f ∈ lintPlace byId reachable q) : f.isPlace = true ∧ f.question? = some q.id := by
  unfold lintPlace at h
  split at h
  · cases h
  · split at h
    · rw [List.mem_singleton.mp h]
      exact ⟨rfl, rfl⟩
    · split at h
      · rw [List.mem_singleton.mp h]
        exact ⟨rfl, rfl⟩
      · obtain ⟨-, h⟩ := List.mem_ite_nil_left.mp h
        rw [List.mem_singleton.mp h]
        exact ⟨rfl, rfl⟩

theorem eq_of_mem_lintOptions {q : Question} {f : Finding} (h : f ∈ lintOptions q) :
    f = .strayOptions q.id q.kind := by
  obtain ⟨-, h⟩ := List.mem_ite_nil_right.mp h
  exact List.mem_singleton.mp h

/-- No finding about a question is about a rule. -/
theorem rule?_of_mem_lintQuestions {f : Finding} (h : f ∈ form.lintQuestions) :
    f.rule? = none := by
  rcases List.mem_append.mp h with h | h
  · obtain ⟨id, rfl⟩ := exists_of_mem_duplicates h
    rfl
  · obtain ⟨q, -, h⟩ := List.mem_flatMap.mp h
    rcases List.mem_append.mp h with h | h
    · exact f.rule?_of_isPlace (isPlace_of_mem_lintPlace h).1
    · rw [eq_of_mem_lintOptions h]
      rfl

/-- **The findings about a rule of the form are those that are true of it.** -/
theorem mem_lint_iff {f : Finding} (hrule : f.rule? = some r) :
    f ∈ form.lint ↔ r ∈ form.rules ∧ Fault form r f := by
  constructor
  · intro h
    rcases List.mem_append.mp h with h | h
    · rw [rule?_of_mem_lintQuestions h] at hrule
      cases hrule
    · obtain ⟨r', hr', h⟩ := List.mem_flatMap.mp h
      have hfault := mem_lintRule_iff.mp h
      rw [hfault.rule?] at hrule
      obtain rfl := Option.some.inj hrule
      exact ⟨hr', hfault⟩
  · rintro ⟨hr, hfault⟩
    exact List.mem_append_right _ (List.mem_flatMap.mpr ⟨r, hr, mem_lintRule_iff.mpr hfault⟩)

end Form

end Questionnaire
