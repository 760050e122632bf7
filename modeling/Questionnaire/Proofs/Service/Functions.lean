import Questionnaire.Proofs.Success
import Questionnaire.Service.Functions

/-! # What the functions answer

An equation for each function of the service that is used by another part of the program, once the
form of the configuration has been read. -/

namespace Questionnaire

/-! ### The question with an id -/

theorem Form.question?_eq_some (form : Form) {id : ItemId} {q : Question}
    (h : form.question? id = some q) : q ∈ form.questions ∧ q.id = id := by
  unfold Form.question? at h
  exact ⟨List.mem_of_find?_eq_some h, by simpa using List.find?_some h⟩

theorem Form.question?_eq_none (form : Form) {id : ItemId} (h : form.question? id = none) :
    ∀ q ∈ form.questions, q.id ≠ id := by
  unfold Form.question? at h
  simpa using h

namespace Service

variable {formId config id answers : String} {form : Form}

theorem findQuestion_eq_ok {q : Question}
    (h : findQuestion form id = .ok q) : q ∈ form.questions ∧ q.id.text = id := by
  unfold findQuestion at h
  cases hq : form.question? ⟨id⟩ with
  | none => rw [hq] at h; cases h
  | some q' =>
    rw [hq] at h
    cases h
    obtain ⟨hmem, hid⟩ := form.question?_eq_some hq
    exact ⟨hmem, by rw [hid]⟩

theorem findQuestion_eq_error {e : ServiceError}
    (h : findQuestion form id = .error e) :
    e = .questionNotFound id ∧ ∀ q ∈ form.questions, q.id.text ≠ id := by
  unfold findQuestion at h
  cases hq : form.question? ⟨id⟩ with
  | some q' => rw [hq] at h; cases h
  | none =>
    rw [hq] at h
    cases h
    exact ⟨rfl, fun q hmem heq => form.question?_eq_none hq q hmem (ItemId.ext heq)⟩

theorem findQuestion_of_hasQuestion (h : form.hasQuestion id = true) :
    ∃ q, findQuestion form id = .ok q := by
  cases hfind : findQuestion form id with
  | ok q => exact ⟨q, rfl⟩
  | error e =>
    obtain ⟨q, hq, htext⟩ := List.any_eq_true.mp h
    exact absurd (by simpa using htext) ((findQuestion_eq_error hfind).2 q hq)

theorem findQuestion_of_not_hasQuestion (h : form.hasQuestion id = false) :
    ∃ e, findQuestion form id = .error e := by
  cases hfind : findQuestion form id with
  | error e => exact ⟨e, rfl⟩
  | ok q =>
    obtain ⟨hq, htext⟩ := findQuestion_eq_ok hfind
    have hno : ∀ q ∈ form.questions, q.id.text ≠ id := by simpa [Form.hasQuestion] using h
    exact absurd htext (hno q hq)

/-! ### Visibility -/

theorem visibility_eq (h : loadForm formId config = .ok form) :
    visibility formId config answers = .ok (form.ownVisibility (readAnswers answers)).toJson := by
  unfold visibility
  rw [h]
  rfl

theorem questionVisible_eq (h : loadForm formId config = .ok form) :
    questionVisible formId config id answers = (findQuestion form id).map fun q =>
      .object [("question_id", q.id.toJson),
        ("visible", .bool (isVisible q form.rules (readAnswers answers)))] := by
  unfold questionVisible
  rw [h]
  cases hq : findQuestion form id with
  | error e => simp [bind, Except.bind, Except.map, hq]
  | ok q => simp [bind, Except.bind, Except.map, hq, pure, Except.pure]

/-! ### Preview -/

theorem preview_eq (h : loadForm formId config = .ok form) :
    preview formId config answers = .ok (form.preview (readAnswers answers)) := by
  unfold preview
  rw [h]
  rfl

theorem renderText_eq (h : loadForm formId config = .ok form) :
    renderText formId config answers = .ok (form.preview (readAnswers answers)).text := by
  unfold renderText
  rw [preview_eq h]
  rfl

theorem renderJson_eq (h : loadForm formId config = .ok form) :
    renderJson formId config answers = .ok (form.preview (readAnswers answers)).toJson := by
  unfold renderJson
  rw [preview_eq h]
  rfl

/-! ### Answering -/

theorem submitPatch_eq (h : loadForm formId config = .ok form) (value : String) :
    submitPatch formId config answers id value =
      (findQuestion form id).bind fun _ =>
        ((Json.ofText value).mapError .answerValue).map fun value =>
          patchReport form ((readAnswers answers).insert ⟨id⟩ value) := by
  unfold submitPatch
  rw [h]
  simp only [bind, Except.bind]
  cases findQuestion form id with
  | error e => rfl
  | ok q => cases Json.ofText value <;> rfl

end Service

end Questionnaire
