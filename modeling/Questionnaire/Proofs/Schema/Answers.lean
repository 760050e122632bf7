import Questionnaire.Proofs.Outline.Pruning
import Questionnaire.Proofs.Schema.Meaning
import Questionnaire.Proofs.Schema.Numerals
import Questionnaire.Proofs.Validation.Check
import Questionnaire.Service.Bundled

/-! # Answers that a schema admits

What the schema of a question admits passes its check, save for one slip
(`admitted_answers_are_valid`). The schema of a choice admits the integer that the id of an option
reads as, and the check expects the id that the integer is written as. When the id spells the
integer differently, with a sign or zeros in front, the two part (`misspelt_option_is_refused`). -/

namespace Questionnaire

open Json

variable {q : Question} {v : Json}

/-! ### The schema of a question -/

/-- **The schema of a question admits what the keywords about the value do**; the title and the
description admit everything. -/
theorem admits_answerSchema_iff :
    q.answerSchema.Admits v ↔ ∀ pair ∈ q.valueSchema, Holds pair.1 pair.2 v := by
  have hkeys : (q.valueSchema ++ [("title", Json.str q.text)] ++
      optionalMember "description" q.description).Pairwise fun a b => a.1 ≠ b.1 := by
    unfold Question.valueSchema optionalMember
    cases q.kind <;> cases q.allowMultiple <;> cases q.description <;> simp
  unfold Question.answerSchema
  rw [admits_object_iff hkeys]
  simp only [List.mem_append]
  constructor
  · intro h pair hpair
    exact h pair (.inl (.inl hpair))
  · rintro h pair ((hpair | hpair) | hpair)
    · exact h pair hpair
    · rw [List.mem_singleton.mp hpair]
      exact (holds_iff (by decide : "title" ≠ "items")).mpr trivial
    · unfold optionalMember at hpair
      split at hpair
      · rw [List.mem_singleton.mp hpair]
        exact (holds_iff (by decide : "description" ≠ "items")).mpr trivial
      · cases hpair

/-! ### Dates -/

theorem isDigit_of_isDigit {c : Char} (h : c.isDigit = true) : Text.isDigit c = true := by
  simp only [Char.isDigit, Bool.and_eq_true, decide_eq_true_eq, ge_iff_le, UInt32.le_iff_toNat_le,
    Char.toNat_val] at h
  unfold Text.isDigit Text.digitRanges
  rw [List.any_cons, Bool.or_eq_true]
  exact .inl (by simpa using h)

/-- **Full dates are written in the form of dates.** -/
theorem isDateText_of_isFullDate {s : String} (h : IsFullDate s) : isDateText s.toList = true := by
  obtain ⟨year, month, day, hs, hyear, hmonth, hday, hdigits, -, -⟩ := h
  obtain ⟨y₁, y₂, y₃, y₄, rfl⟩ := List.length_eq_four.mp hyear
  obtain ⟨m₁, m₂, rfl⟩ := List.length_eq_two.mp hmonth
  obtain ⟨d₁, d₂, rfl⟩ := List.length_eq_two.mp hday
  rw [hs]
  exact List.all_eq_true.mpr fun c hc => isDigit_of_isDigit (hdigits c hc)

/-! ### Choices -/

section Choices

/-- What is selected: the items of a list, or the value itself. -/
def Json.selected : Json → List Json
  | .arr items => items
  | v => [v]

/-- **The question misspells the integer**: the id of an option reads as it, and no option has the
id that it is written as. -/
def Question.Misspells (q : Question) (n : ℤ) : Prop :=
  (∃ c ∈ q.options, Number.readInt64? c.id.text = some n) ∧ q.offers (toString n) = false

theorem Question.mem_orderedOptions {c : Choice} : c ∈ q.orderedOptions ↔ c ∈ q.options :=
  List.mem_mergeSort

/-- **What names an option** is its id, or the integer that the id reads as. -/
theorem mem_choiceValues_iff {c : Choice} {w : Json} :
    w ∈ Question.choiceValues c ↔ w = .str c.id.text ∨
      ∃ n range, Number.readInt64? c.id.text = some n ∧ w = .num (.integer n range) := by
  unfold Question.choiceValues
  rw [List.mem_cons]
  refine or_congr_right ?_
  cases hread : Number.readInt64? c.id.text with
  | none => simp
  | some n =>
    obtain ⟨range, hn⟩ := Number.exists_ofInt? hread
    rw [Option.bind_some, hn]
    constructor
    · intro h
      exact ⟨n, range, rfl, List.mem_singleton.mp h⟩
    · rintro ⟨m, range, hm, rfl⟩
      obtain rfl := Option.some.inj hm
      exact List.mem_singleton_self _

/-- **What the schema admits as a selected value** is the id of an option, or equals an integer that
one reads as. -/
theorem exists_choice_of_enum (h : Asserts "enum" q.optionValues v) :
    ∃ c ∈ q.options, v = .str c.id.text ∨
      ∃ (n : ℤ) (x : Number), Number.readInt64? c.id.text = some n ∧ v = .num x ∧ x.toRat = n := by
  obtain ⟨values, hvalues, w, hw, hsame⟩ := h
  obtain rfl := Json.arr.inj hvalues
  obtain ⟨c, hc, hw⟩ := List.mem_flatMap.mp hw
  refine ⟨c, Question.mem_orderedOptions.mp hc, ?_⟩
  rcases mem_choiceValues_iff.mp hw with rfl | ⟨n, range, hread, rfl⟩
  · cases hsame
    exact .inl rfl
  · cases hsame with
    | num heq => exact .inr ⟨n, _, hread, rfl, heq.symm⟩

/-- **A selected value that the schema admits is an option**, unless the question misspells it. -/
theorem checkSelected_of_enum (h : Asserts "enum" q.optionValues v) :
    q.checkSelected v = none ∨ ∃ (n : ℤ) (x : Number), q.Misspells n ∧ v = .num x ∧ x.toRat = n ∧
      q.checkSelected v = some (.unknownOption (toString n)) := by
  obtain ⟨c, hc, rfl | ⟨n, x, hread, rfl, hx⟩⟩ := exists_choice_of_enum h
  · have hoffers : q.offers c.id.text = true := Question.offers_iff.mpr ⟨c, hc, rfl⟩
    exact .inl (checkSelected_str hoffers)
  · obtain ⟨hlow, hhigh⟩ := Number.readInt64?_mem hread
    rw [checkSelected_num, Number.keyText_of_toRat hx hlow hhigh]
    cases hoffers : q.offers (toString n) with
    | true => exact .inl rfl
    | false => exact .inr ⟨n, x, ⟨⟨c, hc, hread⟩, hoffers⟩, rfl, hx, rfl⟩

/-- The integer that an option's id reads as is admitted. -/
theorem enum_of_readInt64? {c : Choice} (hc : c ∈ q.options) {n : ℤ}
    (hread : Number.readInt64? c.id.text = some n) :
    ∃ range, Asserts "enum" q.optionValues (.num (.integer n range)) := by
  obtain ⟨range, -⟩ := Number.exists_ofInt? hread
  exact ⟨range, _, rfl, _, List.mem_flatMap.mpr ⟨c, Question.mem_orderedOptions.mpr hc,
    mem_choiceValues_iff.mpr (.inr ⟨n, range, hread, rfl⟩)⟩, .num rfl⟩

variable (hkind : q.kind = .multipleChoice)

include hkind

theorem admits_one_iff (hallow : q.allowMultiple = false) :
    q.answerSchema.Admits v ↔ Asserts "enum" q.optionValues v := by
  rw [admits_answerSchema_iff]
  simp only [Question.valueSchema, hkind, hallow, Bool.false_eq_true, if_false,
    List.forall_mem_singleton]
  exact holds_iff (by decide)

theorem admits_several_iff (hallow : q.allowMultiple = true) :
    q.answerSchema.Admits v ↔ ∃ items, v = .arr items ∧
      (∀ item ∈ items, Asserts "enum" q.optionValues item) ∧
      items.Pairwise fun a b => ¬ a.Same b := by
  have henum : ∀ item : Json, (Json.object [("enum", q.optionValues)]).Admits item ↔
      Asserts "enum" q.optionValues item := by
    intro item
    rw [admits_object_iff (List.pairwise_singleton _ _), List.forall_mem_singleton]
    exact holds_iff (by decide : "enum" ≠ "items")
  rw [admits_answerSchema_iff]
  simp only [Question.valueSchema, hkind, hallow, if_true, List.forall_mem_cons,
    List.not_mem_nil, false_imp_iff, implies_true, and_true]
  constructor
  · rintro ⟨htype, hitems, hunique⟩
    obtain ⟨items, rfl⟩ := asserts_type_str.mp htype.asserts
    exact ⟨items, rfl, fun item hitem => (henum item).mp (hitems.items rfl items rfl item hitem),
      hunique.asserts rfl items rfl⟩
  · rintro ⟨items, rfl, hitems, hunique⟩
    refine ⟨(holds_iff (by decide)).mpr (asserts_type_str.mpr ⟨items, rfl⟩),
      ⟨trivial, fun _ _ heq item hitem => ?_⟩, (holds_iff (by decide)).mpr fun _ _ heq => ?_⟩
    · rw [← Json.arr.inj heq] at hitem
      exact (henum item).mpr (hitems item hitem)
    · rwa [← Json.arr.inj heq]

/-- **A choice that the schema admits passes the check**, unless the question misspells it. -/
theorem check_of_choice_admitted (h : q.answerSchema.Admits v) :
    q.check v = none ∨ ∃ (n : ℤ) (x : Number), q.Misspells n ∧ .num x ∈ v.selected ∧
      x.toRat = n ∧ q.check v = some (.unknownOption (toString n)) := by
  cases hallow : q.allowMultiple with
  | false =>
    have henum := (admits_one_iff hkind hallow).mp h
    have hcheck : q.check v = q.checkSelected v := by
      rw [check_choice hkind]
      obtain ⟨c, -, rfl | ⟨n, x, -, rfl, -⟩⟩ := exists_choice_of_enum henum <;> rfl
    rw [hcheck]
    rcases checkSelected_of_enum henum with hnone | ⟨n, x, hn, rfl, hx, hsome⟩
    · exact .inl hnone
    · exact .inr ⟨n, x, hn, List.mem_singleton_self _, hx, hsome⟩
  | true =>
    obtain ⟨items, rfl, henum, -⟩ := (admits_several_iff hkind hallow).mp h
    rw [check_several hkind hallow]
    cases hfind : items.findSome? q.checkSelected with
    | none => exact .inl rfl
    | some problem =>
      obtain ⟨item, hitem, hproblem⟩ := List.exists_of_findSome?_eq_some hfind
      rcases checkSelected_of_enum (henum item hitem) with hnone | ⟨n, x, hn, rfl, hx, hsome⟩
      · rw [hnone] at hproblem
        cases hproblem
      · rw [hproblem] at hsome
        exact .inr ⟨n, x, hn, hitem, hx, hsome⟩

/-- **A misspelt integer is admitted and refused.** -/
theorem exists_refused_of_misspells {n : ℤ} (h : q.Misspells n) :
    ∃ v, q.answerSchema.Admits v ∧ q.check v ≠ none := by
  obtain ⟨⟨c, hc, hread⟩, hoffers⟩ := h
  obtain ⟨range, henum⟩ := enum_of_readInt64? hc hread
  have hselected : q.checkSelected (.num (.integer n range)) ≠ none := by
    rw [checkSelected_num, Number.keyText, hoffers]
    exact Option.some_ne_none _
  cases hallow : q.allowMultiple with
  | false =>
    refine ⟨.num (.integer n range), (admits_one_iff hkind hallow).mpr henum, ?_⟩
    rw [check_choice hkind]
    exact hselected
  | true =>
    refine ⟨.arr [.num (.integer n range)], (admits_several_iff hkind hallow).mpr
      ⟨_, rfl, List.forall_mem_singleton.mpr henum, List.pairwise_singleton _ _⟩, ?_⟩
    rw [check_several hkind hallow, ne_eq, List.findSome?_eq_none_iff, List.forall_mem_singleton]
    exact hselected

end Choices

/-! ### Other answers -/

/-- **All other answers that the schema admits pass the check.** -/
theorem check_of_other_admitted (hkind : q.kind ≠ .multipleChoice) (h : q.answerSchema.Admits v) :
    q.check v = none := by
  rw [admits_answerSchema_iff] at h
  cases hq : q.kind with
  | multipleChoice => exact absurd hq hkind
  | heading =>
    unfold Question.check
    rw [hq]
  | freeText =>
    simp only [Question.valueSchema, hq, List.forall_mem_singleton] at h
    obtain ⟨s, rfl⟩ := asserts_type_str.mp h.asserts
    exact check_str_of_freeText hq s
  | date =>
    simp only [Question.valueSchema, hq, List.forall_mem_cons] at h
    obtain ⟨htype, hformat, -⟩ := h
    obtain ⟨s, rfl⟩ := asserts_type_str.mp htype.asserts
    unfold Question.check
    rw [hq]
    exact if_pos (isDateText_of_isFullDate (hformat.asserts rfl s rfl))
  | number =>
    simp only [Question.valueSchema, hq, List.forall_mem_cons] at h
    obtain ⟨htype, hpattern, -⟩ := h
    have htypes : ∃ name ∈ ["number", "string"], v.IsOfType name :=
      asserts_type_arr.mp htype.asserts
    obtain ⟨name, hname, hvalue⟩ := htypes
    rcases List.mem_cons.mp hname with rfl | hname
    · obtain ⟨x, rfl⟩ := hvalue
      exact check_num hq x
    · rw [List.mem_singleton.mp hname] at hvalue
      obtain ⟨s, rfl⟩ := hvalue
      obtain ⟨_, regex, heq, hregex, hfound⟩ := hpattern.asserts
      rw [← Json.str.inj heq, ofText?_numericPattern] at hregex
      obtain rfl := Option.some.inj hregex
      unfold Question.check
      rw [hq]
      exact if_pos (isSome_readReal?_trim (hfound s rfl))

/-! ### All answers -/

/-- **What the schema of a form says about a question** is the schema of the question. -/
theorem field?_properties_answerSchema {form : Form} (hids : form.DistinctIds)
    {visibility : VisibilityMap} (hq : q ∈ form.schemaQuestions visibility) :
    ((form.answerSchema visibility).field "properties").field? q.id.text =
      some q.answerSchema := by
  have hnodup : ((form.schemaQuestions visibility).map (·.id)).Nodup :=
    hids.sublist (List.filter_sublist.map _)
  have hkeys : ((form.schemaQuestions visibility).map fun q => (q.id.text, q.answerSchema)).Pairwise
      fun a b => a.1 ≠ b.1 :=
    List.pairwise_map.mpr ((List.pairwise_map.mp hnodup).imp fun hne h => hne (ItemId.ext h))
  have hproperties : (form.answerSchema visibility).field "properties" =
      .object ((form.schemaQuestions visibility).map fun q => (q.id.text, q.answerSchema)) := by
    unfold Form.answerSchema
    rw [field_object]
    rfl
  rw [hproperties]
  exact field?_object_of_mem hkeys
    (List.mem_map_of_mem (f := fun q => (q.id.text, q.answerSchema)) hq)

/-- An answer that the schema admits passes the check, unless it is misspelt. -/
theorem check_of_admitted (h : q.answerSchema.Admits v) : q.check v = none ∨
    ∃ (n : ℤ) (x : Number), q.kind = .multipleChoice ∧ q.Misspells n ∧ .num x ∈ v.selected ∧
      x.toRat = n ∧ q.check v = some (.unknownOption (toString n)) := by
  by_cases hkind : q.kind = .multipleChoice
  · rcases check_of_choice_admitted hkind h with hnone | ⟨n, x, hn, hx⟩
    · exact .inl hnone
    · exact .inr ⟨n, x, hkind, hn, hx⟩
  · exact .inl (check_of_other_admitted hkind h)

/-- **What the schema admits, the check accepts**, unless an integer is misspelt. An answer that the
schema of a question admits has no problem, or it selects a number that equals an integer which the
question misspells, and is refused as no option. So the schema of a question admits only answers
without a problem if and only if the question is no choice or misspells no integer. -/
theorem admitted_answers_are_valid (q : Question) :
    (∀ (form : Form) (visibility : VisibilityMap), form.DistinctIds →
      q ∈ form.schemaQuestions visibility →
      ((form.answerSchema visibility).field "properties").field? q.id.text =
        some q.answerSchema) ∧
    (∀ v, q.answerSchema.Admits v → q.check v = none ∨
      ∃ (n : ℤ) (x : Number), q.kind = .multipleChoice ∧ q.Misspells n ∧ .num x ∈ v.selected ∧
        x.toRat = n ∧ q.check v = some (.unknownOption (toString n))) ∧
    ((∀ v, q.answerSchema.Admits v → q.check v = none) ↔
      (q.kind = .multipleChoice → ∀ n, ¬ q.Misspells n)) := by
  refine ⟨fun form visibility hids hq => field?_properties_answerSchema hids hq,
    fun v => check_of_admitted, fun h hkind n hn => ?_, fun h v hv => ?_⟩
  · obtain ⟨v, hv, hrefused⟩ := exists_refused_of_misspells hkind hn
    exact hrefused (h v hv)
  · rcases check_of_admitted hv with hnone | ⟨n, x, hkind, hn, -⟩
    · exact hnone
    · exact absurd hn (h hkind n)

/-- The numbers of the options of the bundled form are spelt as they are written. -/
theorem admitted_answers_are_valid_bundled :
    ∃ q ∈ Service.bundledForm.questions, q.kind = .multipleChoice ∧
      q.answerSchema.Admits (.ofNat 31) ∧ ∀ v, q.answerSchema.Admits v → q.check v = none := by
  let gp : Choice := ⟨⟨"31"⟩, "GP", some "gp", 0⟩
  let specialist : Choice := ⟨⟨"32"⟩, "Specialist", some "specialist", 1⟩
  let referral : Question := { Service.bundledQuestion "3" "Referral type" .multipleChoice
    (some "1") 1 with options := [gp, specialist] }
  have hgp : Number.readInt64? "31" = some 31 := by decide
  have hspecialist : Number.readInt64? "32" = some 32 := by decide
  have hspelt : ∀ n, ¬ referral.Misspells n := by
    rintro n ⟨⟨c, hc, hread⟩, hoffers⟩
    rcases List.mem_cons.mp hc with rfl | hc
    · obtain rfl := Option.some.inj (hgp.symm.trans hread)
      exact absurd hoffers (by decide)
    · rw [List.mem_singleton.mp hc] at hread
      obtain rfl := Option.some.inj (hspecialist.symm.trans hread)
      exact absurd hoffers (by decide)
  obtain ⟨range, henum⟩ : ∃ range, Json.Asserts "enum" referral.optionValues
      (.num (.integer 31 range)) :=
    enum_of_readInt64? (List.mem_cons_self (a := gp)) hgp
  exact ⟨referral, by decide, rfl, (admits_one_iff rfl rfl).mpr henum,
    (admitted_answers_are_valid referral).2.2.mpr fun _ => hspelt⟩

/-- A choice with an option that has zeros in front of its number. -/
def paddedQuestion : Question where
  id := ⟨"agent"⟩
  text := "Agent"
  kind := .multipleChoice
  parentId := none
  orderIndex := 0
  required := true
  allowMultiple := false
  description := none
  placeholder := none
  options := [⟨⟨"007"⟩, "Bond", none, 0⟩]

/-- **A misspelt option is refused**: the schema admits 7, which is no blank answer, and there is no
option with that id. -/
theorem misspelt_option_is_refused :
    paddedQuestion.answerSchema.Admits (.ofNat 7) ∧ (Json.ofNat 7).isBlank = false ∧
      paddedQuestion.check (.ofNat 7) = some (.unknownOption "7") := by
  obtain ⟨range, henum⟩ : ∃ range, Json.Asserts "enum" paddedQuestion.optionValues
      (.num (.integer 7 range)) :=
    enum_of_readInt64? (List.mem_singleton_self _) (by decide)
  exact ⟨(admits_one_iff rfl rfl).mpr henum, rfl, by decide⟩

end Questionnaire
