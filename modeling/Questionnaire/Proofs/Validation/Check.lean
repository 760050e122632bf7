import Questionnaire.Validation

/-! # The check of an answer

What the check says of an answer by the kind of the question. Every selected value has to name an
option, so the choices without a problem name what is offered (`offers_of_check`). -/

namespace Questionnaire

variable {q : Question}

/-! ### Selected values -/

theorem Question.offers_iff {key : String} :
    q.offers key = true ↔ ∃ c ∈ q.options, c.id.text = key := by
  simp [offers]

theorem checkSelected_str {id : String} (h : q.offers id = true) :
    q.checkSelected (.str id) = none := by
  simp [Question.checkSelected, Json.key?, h]

theorem checkSelected_num (q : Question) (x : Number) : q.checkSelected (.num x) =
    if q.offers x.keyText then none else some (.unknownOption x.keyText) := rfl

theorem offers_of_checkSelected {value : Json} (h : q.checkSelected value = none) {key : String}
    (hkey : value.key? = some key) : q.offers key = true := by
  unfold Question.checkSelected at h
  cases value with
  | arr _ => cases h
  | obj _ => cases h
  | _ =>
    simp only [hkey] at h
    simpa using h

/-- Only what is not offered is reported as unknown. -/
theorem offers_eq_false_of_checkSelected {value : Json} {key : String}
    (h : q.checkSelected value = some (.unknownOption key)) : q.offers key = false := by
  unfold Question.checkSelected at h
  split at h
  · cases h
  · cases h
  · split at h
    · cases h
    · split at h
      · cases h
      · next hoffers =>
        cases h
        exact Bool.eq_false_iff.mpr hoffers

/-! ### The kinds of question -/

theorem check_num (hkind : q.kind = .number) (n : Number) : q.check (.num n) = none := by
  unfold Question.check
  rw [hkind]

theorem check_str_of_freeText (hkind : q.kind = .freeText) (s : String) :
    q.check (.str s) = none := by
  unfold Question.check
  rw [hkind]

theorem check_choice (hkind : q.kind = .multipleChoice) (value : Json) :
    q.check value = q.checkChoice value := by
  unfold Question.check
  rw [hkind]

theorem check_several (hkind : q.kind = .multipleChoice) (hallow : q.allowMultiple = true)
    (items : List Json) : q.check (.arr items) = items.findSome? q.checkSelected := by
  rw [check_choice hkind, Question.checkChoice, if_neg (by simp [hallow])]

/-- **All that a choice names is offered** when the answer has no problem. -/
theorem offers_of_check (hkind : q.kind = .multipleChoice) {value : Json}
    (h : q.check value = none) : ∀ key ∈ Answers.keysOf value, q.offers key = true := by
  rw [check_choice hkind] at h
  unfold Question.checkChoice at h
  intro key hkey
  cases value with
  | arr items =>
    obtain ⟨item, hitem, hkey⟩ := List.mem_filterMap.mp hkey
    simp only at h
    split at h
    · cases h
    · exact offers_of_checkSelected (List.findSome?_eq_none_iff.mp h item hitem) hkey
  | _ => exact offers_of_checkSelected h (Option.mem_toList.mp hkey)

/-- **An option that is reported as unknown is not offered.** -/
theorem offers_eq_false_of_check (hkind : q.kind = .multipleChoice) {value : Json} {key : String}
    (h : q.check value = some (.unknownOption key)) : q.offers key = false := by
  rw [check_choice hkind] at h
  unfold Question.checkChoice at h
  cases value with
  | arr items =>
    simp only at h
    split at h
    · cases h
    · obtain ⟨item, -, hitem⟩ := List.exists_of_findSome?_eq_some h
      exact offers_eq_false_of_checkSelected hitem
  | _ => exact offers_eq_false_of_checkSelected h

end Questionnaire
