import Questionnaire.Proofs.Validation.Check
import Questionnaire.Proofs.Visibility.Answering

/-! # What validation reports

Validation looks at the questions that are seen and can be answered (`mem_visibleLeaves_iff`). Where
no id is repeated, its report names those of which an answer is wanted and not given
(`mem_missingRequired_iff`), and the first problem with every answer that has one
(`mem_errors_iff`). A choice without a problem names options of its question only
(`offers_of_check`). -/

namespace Questionnaire

open Outline

variable {form : Form} {answers : Answers}

theorem Answers.get?_of_given? {id : ItemId} {value : Json} (h : answers.given? id = some value) :
    answers.get? id = some value := by
  unfold given? at h
  exact (Option.filter_eq_some_iff.mp h).1

theorem Answers.isAnswered_eq_false_iff {id : ItemId} :
    answers.isAnswered id = false ↔ answers.given? id = none := by
  unfold isAnswered
  rw [Option.isSome_eq_false_iff, Option.isNone_iff_eq_none]

/-! ### The questions that are looked at -/

theorem mem_visibleLeaves_iff (hids : form.DistinctIds) {q : Question} :
    q ∈ form.visibleLeaves (form.effectiveVisibility answers) ↔
      Seen form answers q ∧ q.isSection = false := by
  unfold Form.visibleLeaves
  rw [List.mem_filter, Bool.and_eq_true, Bool.not_eq_true']
  constructor
  · rintro ⟨hq, hsection, hvisible⟩
    exact ⟨(getD_effectiveVisibility_iff_seen hids answers hq).mp hvisible, hsection⟩
  · rintro ⟨hseen, hsection⟩
    exact ⟨hseen.mem, hsection,
      (getD_effectiveVisibility_iff_seen hids answers hseen.mem).mpr hseen⟩

section Lists
variable (form : Form) (answers : Answers)

theorem errors_eq : (form.validate answers).errors =
    (form.visibleLeaves (form.effectiveVisibility answers)).filterMap (Form.errorOf answers) :=
  rfl

theorem missingRequired_eq : (form.validate answers).missingRequired =
    ((form.visibleLeaves (form.effectiveVisibility answers)).filter fun q =>
      q.required && !answers.isAnswered q.id).map (·.id) :=
  rfl

end Lists

/-- **An answer is wanted**: the question is seen, can be answered, and requires it. -/
structure Wanted (form : Form) (answers : Answers) (q : Question) : Prop where
  seen : Seen form answers q
  leaf : q.isSection = false
  required : q.required = true

/-- **What is missing** are the answers that are wanted and not given. -/
theorem mem_missingRequired_iff (hids : form.DistinctIds) {id : ItemId} :
    id ∈ (form.validate answers).missingRequired ↔
      ∃ q, Wanted form answers q ∧ answers.given? q.id = none ∧ q.id = id := by
  rw [missingRequired_eq]
  simp only [List.mem_map, List.mem_filter, mem_visibleLeaves_iff hids, Bool.and_eq_true,
    Bool.not_eq_true', Answers.isAnswered_eq_false_iff]
  constructor
  · rintro ⟨q, ⟨⟨hseen, hleaf⟩, hrequired, hopen⟩, hid⟩
    exact ⟨q, ⟨hseen, hleaf, hrequired⟩, hopen, hid⟩
  · rintro ⟨q, ⟨hseen, hleaf, hrequired⟩, hopen, hid⟩
    exact ⟨q, ⟨⟨hseen, hleaf⟩, hrequired, hopen⟩, hid⟩

theorem missingRequired_eq_nil_iff (hids : form.DistinctIds) :
    (form.validate answers).missingRequired = [] ↔
      ∀ q, Wanted form answers q → answers.given? q.id ≠ none := by
  rw [List.eq_nil_iff_forall_not_mem]
  constructor
  · intro h q hwanted hopen
    exact h q.id ((mem_missingRequired_iff hids).mpr ⟨q, hwanted, hopen, rfl⟩)
  · intro h id hid
    obtain ⟨q, hwanted, hopen, -⟩ := (mem_missingRequired_iff hids).mp hid
    exact h q hwanted hopen

theorem errorOf_eq_some_iff {q : Question} {e : ValidationError} :
    Form.errorOf answers q = some e ↔
      ∃ value, answers.given? q.id = some value ∧ q.check value = some e.problem ∧
        q.id = e.question := by
  obtain ⟨id, problem⟩ := e
  unfold Form.errorOf
  constructor
  · intro h
    obtain ⟨value, hgiven, h⟩ := Option.bind_eq_some_iff.mp h
    obtain ⟨found, hcheck, h⟩ := Option.bind_eq_some_iff.mp h
    cases h
    exact ⟨value, hgiven, hcheck, rfl⟩
  · rintro ⟨value, hgiven, hcheck, rfl⟩
    rw [hgiven]
    simp only [Option.bind_eq_bind, Option.bind_some, hcheck]
    rfl

/-- **What is wrong** are the problems with answers to questions that are seen. -/
theorem mem_errors_iff (hids : form.DistinctIds) {e : ValidationError} :
    e ∈ (form.validate answers).errors ↔
      ∃ q value, Seen form answers q ∧ q.isSection = false ∧ answers.given? q.id = some value ∧
        q.check value = some e.problem ∧ q.id = e.question := by
  rw [errors_eq]
  simp only [List.mem_filterMap, mem_visibleLeaves_iff hids, errorOf_eq_some_iff, and_assoc,
    exists_and_left]

/-- Nothing is wrong when nothing is wrong with any answer to a question that is seen. -/
theorem errors_eq_nil_iff (hids : form.DistinctIds) :
    (form.validate answers).errors = [] ↔
      ∀ q value, Seen form answers q → q.isSection = false → answers.given? q.id = some value →
        q.check value = none := by
  rw [List.eq_nil_iff_forall_not_mem]
  constructor
  · intro h q value hseen hsection hgiven
    rw [Option.eq_none_iff_forall_not_mem]
    intro problem hproblem
    exact h ⟨q.id, problem⟩ ((mem_errors_iff hids).mpr
      ⟨q, value, hseen, hsection, hgiven, hproblem, rfl⟩)
  · intro h e he
    obtain ⟨q, value, hseen, hsection, hgiven, hcheck, -⟩ := (mem_errors_iff hids).mp he
    rw [h q value hseen hsection hgiven] at hcheck
    cases hcheck

theorem unknownFields_eq_nil_iff :
    (form.validate answers).unknownFields = [] ↔
      ∀ key ∈ answers.keys, form.hasQuestion key = true := by
  unfold Form.validate
  simp only [List.filter_eq_nil_iff, Bool.not_eq_true', Bool.not_eq_false]

theorem ValidationReport.valid_iff {report : ValidationReport} :
    report.valid = true ↔
      report.errors = [] ∧ report.missingRequired = [] ∧ report.unknownFields = [] := by
  unfold valid
  simp only [Bool.and_eq_true, List.isEmpty_iff, and_assoc]

/-- **Answers are valid** when every question of the form has one that it accepts, or may do
without. -/
theorem valid_of_all (hkeys : ∀ key ∈ answers.keys, form.hasQuestion key = true)
    (hrequired : ∀ q ∈ form.questions, q.required = true → answers.isAnswered q.id = true)
    (herrors : ∀ q ∈ form.questions, Form.errorOf answers q = none) :
    (form.validate answers).valid = true := by
  refine ValidationReport.valid_iff.mpr ⟨?_, ?_, unknownFields_eq_nil_iff.mpr hkeys⟩
  · exact List.filterMap_eq_nil_iff.mpr fun q hq => herrors q (List.mem_of_mem_filter hq)
  · refine List.map_eq_nil_iff.mpr (List.filter_eq_nil_iff.mpr fun q hq => ?_)
    rw [Bool.and_eq_true, Bool.not_eq_true']
    rintro ⟨hreq, hopen⟩
    rw [hrequired q (List.mem_of_mem_filter hq) hreq] at hopen
    cases hopen

end Questionnaire
