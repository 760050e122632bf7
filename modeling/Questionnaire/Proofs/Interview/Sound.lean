import Questionnaire.Proofs.Interview.Exchange
import Questionnaire.Proofs.Interview.Reply
import Questionnaire.Proofs.Validation.Report

/-! # Answers that an interview gathers

`Sound` is what holds of the answers at every point of an interview: they are answers to questions
of the form, and validation has nothing against any of them, unless it is the text of a date and the
question is hidden whenever it has that answer. Sound answers have no errors and no unknown fields
(`Sound.faultless`), they arrive at the service as sound answers (`Sound.sent`), and one more answer
that passed validation keeps them sound (`Sound.insert`). When every question that is seen is
answered or need not be, they are valid (`Sound.valid`). -/

namespace Questionnaire

open Outline Interview

variable {form : Form} {answers : Answers} {p : Number → Prop}

/-- Validation finds no errors in the answers, and no fields that the form does not have. -/
structure Form.Faultless (form : Form) (answers : Answers) : Prop where
  errors : (form.validate answers).errors = []
  unknownFields : (form.validate answers).unknownFields = []

/-- **Answers that validation has nothing against**, as far as it will ever see them. -/
structure Sound (p : Number → Prop) (form : Form) (answers : Answers) : Prop where
  fits : answers.Fits p
  known : ∀ key ∈ answers.keys, form.hasQuestion key = true
  passes : ∀ q ∈ form.questions, ∀ value, answers.get? q.id = some value →
    Passes q value ∨
      q.kind = .date ∧ (∃ s, value = .str s ∧ s ≠ "") ∧
        ∀ after : Answers, after.get? q.id = some value → ¬ Seen form after q

theorem sound_empty (form : Form) : Sound p form .empty where
  fits := Answers.fits_empty
  known key hkey := by cases hkey
  passes q hq value hvalue := by cases hvalue

/-- What valid answers leave open is not seen or not required. -/
theorem isAnswered_of_valid (hids : form.DistinctIds) {q : Question}
    (hvalid : (form.validate answers).valid = true) (hseen : Seen form answers q)
    (hsection : q.isSection = false) (hrequired : q.required = true) :
    answers.isAnswered q.id = true := by
  obtain ⟨-, hmissing, -⟩ := ValidationReport.valid_iff.mp hvalid
  have hgiven := (missingRequired_eq_nil_iff hids).mp hmissing q ⟨hseen, hsection, hrequired⟩
  rwa [ne_eq, ← Answers.isAnswered_eq_false_iff, Bool.not_eq_false] at hgiven

namespace Sound

/-- The answer to a question for a date is a text. -/
theorem date (h : Sound p form answers) {q : Question} (hq : q ∈ form.questions)
    (hkind : q.kind = .date) {value : Json} (hvalue : answers.get? q.id = some value) :
    ∃ s, value = .str s ∧ s ≠ "" := by
  rcases h.passes q hq value hvalue with hpasses | ⟨-, htext, -⟩
  · have hcheck := hpasses.check
    unfold Question.check at hcheck
    rw [hkind] at hcheck
    cases value with
    | str s =>
      refine ⟨s, rfl, ?_⟩
      rintro rfl
      cases hcheck
    | _ => cases hcheck
  · exact htext

/-- **Sound answers are faultless.** -/
theorem faultless (hids : form.DistinctIds) (h : Sound p form answers) : form.Faultless answers where
  errors := by
    rw [errors_eq_nil_iff hids]
    intro q value hseen _ hgiven
    have hget := Answers.get?_of_given? hgiven
    rcases h.passes q hseen.mem value hget with hpasses | ⟨-, -, hhidden⟩
    · exact hpasses.check
    · exact absurd hseen (hhidden answers hget)
  unknownFields := unknownFields_eq_nil_iff.mpr h.known

/-- **Answers are valid when what is seen and required is answered.** -/
theorem valid (hids : form.DistinctIds) (h : Sound p form answers)
    (hanswered : ∀ q, Seen form answers q → q.isSection = false → q.required = true →
      answers.isAnswered q.id = true) :
    (form.validate answers).valid = true := by
  refine ValidationReport.valid_iff.mpr ⟨(h.faultless hids).errors, ?_,
    (h.faultless hids).unknownFields⟩
  rw [missingRequired_eq_nil_iff hids]
  intro q hwanted hnone
  have hopen := Answers.isAnswered_eq_false_iff.mpr hnone
  rw [hanswered q hwanted.seen hwanted.leaf hwanted.required] at hopen
  cases hopen

/-! ### Sent and read back -/

theorem reread (hp : Number.Kept p) (h : Sound p form answers) : Sound p form answers.reread where
  fits := h.fits.reread hp
  known key hkey := by
    rw [Answers.keys_reread] at hkey
    exact h.known key hkey
  passes q hq value hvalue := by
    rw [Answers.get?_reread] at hvalue
    obtain ⟨value, hget, rfl⟩ := Option.map_eq_some_iff.mp hvalue
    rcases h.passes q hq value hget with hpasses | ⟨hkind, ⟨s, rfl, hs⟩, hhidden⟩
    · exact .inl hpasses.reread
    · exact .inr ⟨hkind, ⟨s, rfl, hs⟩, hhidden⟩

/-- **Sound answers arrive as sound answers.** -/
theorem sent (hp : Number.Kept p) (h : Sound p form answers) : Sound p form answers.sent := by
  rcases Answers.sent_eq_or h.fits with heq | heq
  · rw [heq]; exact h.reread hp
  · rw [heq]; exact sound_empty form

/-! ### One more answer -/

/-- A question that validation names no error for passes, if it is seen. -/
theorem check_of_no_error (hids : form.DistinctIds) {q : Question} {value : Json}
    (hseen : Seen form answers q) (hsection : q.isSection = false)
    (hgiven : answers.given? q.id = some value)
    (hnone : ∀ e ∈ (form.validate answers).errors, e.question ≠ q.id) : q.check value = none := by
  rw [Option.eq_none_iff_forall_not_mem]
  intro problem hproblem
  exact hnone ⟨q.id, problem⟩
    ((mem_errors_iff hids).mpr ⟨q, value, hseen, hsection, hgiven, hproblem, rfl⟩) rfl

/-- **An answer that passes validation keeps the answers sound.** If it does so because it hides its
own question, the question stays hidden as long as it has that answer. -/
theorem insert (hids : form.DistinctIds) (h : Sound p form answers) {q : Question} {value : Json}
    (hseen : Seen form answers q) (hsection : q.isSection = false) (hgood : Good p q value)
    (hdate : q.kind = .date → answers.get? q.id = none)
    (hnone : ∀ e ∈ (form.validate (answers.insert q.id value)).errors, e.question ≠ q.id) :
    Sound p form (answers.insert q.id value) := by
  refine ⟨h.fits.insert q.id hgood.fits, fun key hkey => ?_, fun q' hq' value' hvalue' => ?_⟩
  · obtain ⟨member, hmember, rfl⟩ := List.mem_map.mp hkey
    rcases Members.mem_insert hmember with rfl | hmember
    · exact List.any_eq_true.mpr ⟨q, hseen.mem, by simp⟩
    · exact h.known _ (List.mem_map_of_mem hmember)
  · by_cases hid : q'.id = q.id
    · obtain rfl := hids.eq_of_id hq' hseen.mem hid
      rw [Answers.get?_insert_self] at hvalue'
      obtain rfl := Option.some.inj hvalue'
      rcases hgood.passes with hpasses | ⟨hkind, s, rfl, hs⟩
      · exact .inl hpasses
      · by_cases hstill : Seen form (answers.insert q'.id (.str s)) q'
        · refine .inl ⟨check_of_no_error hids hstill hsection ?_ hnone, .inl (.str s)⟩
          unfold Answers.given?
          rw [Answers.get?_insert_self]
          simp [Json.isBlank, hs]
        · refine .inr ⟨hkind, ⟨s, rfl, hs⟩, fun after hafter => ?_⟩
          have hopen : answers.given? q'.id = none := by
            unfold Answers.given?
            rw [hdate hkind]
            rfl
          exact not_seen_of_hidden hids hopen hseen hstill hafter
    · rw [Answers.get?_insert_of_ne _ hid] at hvalue'
      exact h.passes q' hq' value' hvalue'

end Sound

end Questionnaire
