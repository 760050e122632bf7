import Questionnaire.Proofs.Interview.Asked

/-! # A whole interview

An interview about a form goes through a list of states, one for each line that is taken
(`Session.states`). `Proceeds` is what holds of every state: the sheet and the answers belong
together, the answers are sound, and only questions that need no answer are skipped. Each line keeps
it (`Proceeds.take`), so it holds throughout (`Proceeds.states`). While every number that is typed
can be read again and again, no line is a fault and the interview comes to an end
(`Proceeds.exists_ending`). -/

namespace Questionnaire

open Outline Interview

namespace Interview

/-- The interview at its start and after each line that it takes. -/
def Session.states (s : Session) : List String → List Session
  | [] => [s]
  | line :: lines =>
    s :: match s.asked? with
      | none => []
      | some q =>
        match s.take q line with
        | .error _ => []
        | .ok (next, _) => next.states lines

/-- **What holds of every state of an interview** about a form. -/
structure Proceeds (p : Number → Prop) (form : Form) (detailed : Bool) (s : Session)
    (answers : Answers) : Prop where
  setting : s.setting = .about form detailed
  sheet : s.sheet = .ofPreview (form.preview answers.sent)
  text : s.answers = answers.toJson
  sound : Sound p form answers
  skipped : ∀ id ∈ s.skipped, ∃ q ∈ form.questions, q.id.text = id ∧ q.required = false

/-- **When no question is left, the answers are valid**, if they were sent as they are. -/
theorem Proceeds.valid {form : Form} {detailed : Bool} {p : Number → Prop} {s : Session}
    {answers : Answers} (hids : form.DistinctIds) (h : Proceeds p form detailed s answers)
    (hnone : s.asked? = none) (hsurvives : s.answers.Survives) :
    (form.validate (.ofJson s.answers)).valid = true := by
  rw [h.text] at hsurvives ⊢
  have hsent : answers.sent = answers := Answers.sent_eq ⟨hsurvives, h.sound.fits.tidy⟩
  have hasked : (Sheet.ofPreview (form.preview answers)).next? s.skipped = none := by
    rw [← hsent, ← h.sheet]
    exact hnone
  exact h.sound.valid hids fun q hseen hsection hrequired =>
    isAnswered_of_asked_eq_none hids h.skipped hasked hseen hsection hrequired

/-! ### One line -/

section Step

variable {form : Form} {detailed : Bool} {p : Number → Prop} {s next : Session} {answers : Answers}
  {sq : SheetQuestion} {said : List Output}

/-- An interview that is opened with sound answers starts as it should. -/
theorem proceeds_of_session (hp : Number.Kept p) (hsound : Sound p form answers)
    {skipped : List String}
    (hskipped : ∀ id ∈ skipped, ∃ q ∈ form.questions, q.id.text = id ∧ q.required = false)
    (h : (Setting.about form detailed).session answers.toJson skipped = .ok next) :
    Proceeds p form detailed next answers := by
  obtain rfl := Setting.eq_of_session form detailed hp hsound.fits h
  exact ⟨rfl, rfl, rfl, hsound, hskipped⟩

/-- The question that is asked. -/
theorem Proceeds.exists_of_asked (hids : form.DistinctIds) (hp : Number.Kept p)
    (h : Proceeds p form detailed s answers) (hasked : s.asked? = some sq) :
    ∃ q, Describes sq q ∧ Seen form answers.sent q ∧ q.isSection = false ∧
      (q.kind = .date → answers.sent.get? q.id = none) := by
  have hnext : (Sheet.ofPreview (form.preview answers.sent)).next? s.skipped = some sq := by
    rw [← h.sheet]; exact hasked
  obtain ⟨q, hq, hseen, hsection, hdisplay⟩ := Interview.exists_of_asked hids hnext
  exact ⟨q, hq, hseen, hsection, fun hkind =>
    get?_of_displayValue_eq_empty (h.sound.sent hp) hseen.mem hkind hdisplay⟩

/-- **Answers that are handed back are sound** if nothing is said against the new one. -/
theorem Proceeds.sound_of_submit (hids : form.DistinctIds) (hp : Number.Kept p)
    (h : Proceeds p form detailed s answers) {q : Question}
    (hq : Describes sq q) (hseen : Seen form answers.sent q) (hsection : q.isSection = false)
    (hdate : q.kind = .date → answers.sent.get? q.id = none) {value : Json} (hgood : Good p q value)
    {report : Json} (hsubmit : s.setting.submit s.answers sq.id value = .ok report)
    (hnone : problemsWith report sq.id = []) :
    ∃ answers', report.field "answers" = answers'.toJson ∧ Sound p form answers' := by
  have hknown : form.hasQuestion q.id.text = true :=
    List.any_eq_true.mpr ⟨q, hseen.mem, by simp⟩
  rw [h.setting, h.text, hq.id] at hsubmit
  obtain rfl := Setting.eq_of_submit form detailed hp hknown h.sound.fits hgood.fits hsubmit
  rw [hq.id, Service.problemsWith_patchReport, List.map_eq_nil_iff, List.filter_eq_nil_iff] at hnone
  refine ⟨_, Service.field_answers_patchReport form _, Sound.reread hp ?_⟩
  refine (h.sound.sent hp).insert hids hseen hsection (hgood.reread hp) hdate fun e he heq => ?_
  exact hnone e he (by rw [heq]; simp)

theorem Session.take_eq_record {line : String} {value : Json}
    (hread : readReply sq line = .ok value) (hvalue : value ≠ .null) :
    s.take sq line = s.record sq value := by
  rw [Session.take, hread]
  cases value with
  | null => exact absurd rfl hvalue
  | _ => rfl

/-- An answer that nothing is said against is put to the others. -/
theorem Session.take_eq_of_nil {line : String} {value report : Json}
    (hread : readReply sq line = .ok value) (hvalue : value ≠ .null)
    (hsubmit : s.setting.submit s.answers sq.id value = .ok report)
    (hnone : problemsWith report sq.id = [])
    (hsession : s.setting.session (report.field "answers") s.skipped = .ok next) :
    s.take sq line = .ok (next, []) := by
  rw [take_eq_record hread hvalue, record]
  simp only [hsubmit, bind, Except.bind, hnone, hsession]
  rfl

/-- **What an answer can do**: it is put to the others, or it is refused. -/
theorem Session.record_cases {value : Json} (h : s.record sq value = .ok (next, said)) :
    (∃ report, s.setting.submit s.answers sq.id value = .ok report ∧
      problemsWith report sq.id = [] ∧
      s.setting.session (report.field "answers") s.skipped = .ok next) ∨
    s.setting.session s.answers s.skipped = .ok next := by
  obtain ⟨report, hsubmit, h⟩ := exists_of_bind_eq_ok h
  cases hcase : problemsWith report sq.id with
  | nil =>
    rw [hcase] at h
    obtain ⟨next', hsession, h⟩ := exists_of_bind_eq_ok h
    obtain ⟨rfl, -⟩ := Prod.mk.inj (Except.ok.inj h)
    exact .inl ⟨report, hsubmit, hcase, hsession⟩
  | cons problem problems =>
    rw [hcase] at h
    obtain ⟨next', hsession, h⟩ := exists_of_bind_eq_ok h
    obtain ⟨rfl, -⟩ := Prod.mk.inj (Except.ok.inj h)
    exact .inr hsession

/-- **What a reply can do**: it is rejected, it skips the question, its answer is put to the others,
or that is refused. -/
theorem Session.take_cases {line : String} (h : s.take sq line = .ok (next, said)) :
    (∃ reason, readReply sq line = .error reason ∧ next = { s with fresh := false }) ∨
    (readReply sq line = .ok .null ∧
      s.setting.session s.answers (s.skipped ++ [sq.id]) = .ok next) ∨
    (∃ value report, readReply sq line = .ok value ∧ value ≠ .null ∧
      s.setting.submit s.answers sq.id value = .ok report ∧ problemsWith report sq.id = [] ∧
      s.setting.session (report.field "answers") s.skipped = .ok next) ∨
    s.setting.session s.answers s.skipped = .ok next := by
  unfold Session.take at h
  cases hread : readReply sq line with
  | error reason =>
    rw [hread] at h
    obtain ⟨rfl, -⟩ := Prod.mk.inj (Except.ok.inj h)
    exact .inl ⟨reason, rfl, rfl⟩
  | ok value =>
    rw [hread] at h
    by_cases hvalue : value = .null
    · subst hvalue
      obtain ⟨next', hsession, h⟩ := exists_of_bind_eq_ok h
      obtain ⟨rfl, -⟩ := Prod.mk.inj (Except.ok.inj h)
      exact .inr (.inl ⟨rfl, hsession⟩)
    · have htake : s.take sq line = .ok (next, said) := by rw [Session.take, hread]; exact h
      rw [Session.take_eq_record hread hvalue] at htake
      rcases Session.record_cases htake with ⟨report, hsubmit, hnone, hsession⟩ | hsession
      · exact .inr (.inr (.inl ⟨value, report, rfl, hvalue, hsubmit, hnone, hsession⟩))
      · exact .inr (.inr (.inr hsession))

/-- **A line keeps the interview going as it should.** -/
theorem Proceeds.take (hids : form.DistinctIds) (hp : Number.Kept p)
    (h : Proceeds p form detailed s answers) (hasked : s.asked? = some sq) {line : String}
    (hline : WritesOnly p line)
    (htake : s.take sq line = .ok (next, said)) :
    ∃ answers', Proceeds p form detailed next answers' := by
  obtain ⟨q, hq, hseen, hsection, hdate⟩ := h.exists_of_asked hids hp hasked
  rcases Session.take_cases htake with ⟨reason, -, rfl⟩ | ⟨hread, hsession⟩ |
    ⟨value, report, hread, hvalue, hsubmit, hnone, hsession⟩ | hsession
  · exact ⟨answers, h.setting, h.sheet, h.text, h.sound, h.skipped⟩
  · -- an empty line only skips a question that is not required
    have hoptional : q.required = false := by
      rcases hq.readReply hsection hline hread with ⟨-, hoptional⟩ | hgood
      · exact hoptional
      · exact absurd rfl hgood.notNull
    rw [h.setting, h.text] at hsession
    refine ⟨answers, proceeds_of_session hp h.sound (fun id hid => ?_) hsession⟩
    rcases List.mem_append.mp hid with hid | hid
    · exact h.skipped id hid
    · rw [List.mem_singleton.mp hid]
      exact ⟨q, hseen.mem, hq.id.symm, hoptional⟩
  · rcases hq.readReply hsection hline hread with ⟨rfl, -⟩ | hgood
    · exact absurd rfl hvalue
    · obtain ⟨answers', htext, hsound⟩ :=
        h.sound_of_submit hids hp hq hseen hsection hdate hgood hsubmit hnone
      rw [h.setting, htext] at hsession
      exact ⟨answers', proceeds_of_session hp hsound h.skipped hsession⟩
  · rw [h.setting, h.text] at hsession
    exact ⟨answers, proceeds_of_session hp h.sound h.skipped hsession⟩

/-- **No line is a fault** while all numbers can be read again and again. -/
theorem Proceeds.exists_take (hids : form.DistinctIds) (hp : Number.Lasting p)
    (h : Proceeds p form detailed s answers) (hasked : s.asked? = some sq) {line : String}
    (hline : WritesOnly p line) :
    ∃ next said, s.take sq line = .ok (next, said) := by
  obtain ⟨q, hq, hseen, hsection, hdate⟩ := h.exists_of_asked hids hp.toKept hasked
  have hopens : ∀ skipped, ∃ next, s.setting.session s.answers skipped = .ok next := by
    rw [h.setting, h.text]
    exact Setting.exists_session form detailed hp h.sound.fits
  cases hread : readReply sq line with
  | error reason => exact ⟨{ s with fresh := false }, reason.outputs, by rw [Session.take, hread]⟩
  | ok value =>
    rcases hq.readReply hsection hline hread with ⟨rfl, -⟩ | hgood
    · -- the question is skipped
      obtain ⟨next, hnext⟩ := hopens (s.skipped ++ [sq.id])
      refine ⟨next, [], ?_⟩
      rw [Session.take, hread]
      simp only [hnext]
      rfl
    · have hknown : form.hasQuestion q.id.text = true :=
        List.any_eq_true.mpr ⟨q, hseen.mem, by simp⟩
      obtain ⟨report, hsubmit⟩ : ∃ report, s.setting.submit s.answers sq.id value = .ok report := by
        rw [h.setting, h.text, hq.id]
        exact Setting.exists_submit form detailed hp hknown h.sound.fits hgood.fits
      cases hcase : problemsWith report sq.id with
      | nil =>
        obtain ⟨answers', htext, hsound⟩ := h.sound_of_submit hids hp.toKept hq hseen hsection
          hdate hgood hsubmit hcase
        obtain ⟨next, hnext⟩ := Setting.exists_session form detailed hp hsound.fits s.skipped
        rw [← htext, ← h.setting] at hnext
        exact ⟨next, [], Session.take_eq_of_nil hread hgood.notNull hsubmit hcase hnext⟩
      | cons problem problems =>
        obtain ⟨next, hnext⟩ := hopens s.skipped
        refine ⟨next, (problem :: problems).map invalid, ?_⟩
        rw [Session.take_eq_record hread hgood.notNull, Session.record]
        simp only [hsubmit, bind, Except.bind, hcase, hnext]
        rfl

/-! ### All lines -/

/-- The interview ends in one of its states. -/
theorem Session.mem_states_of_converse {lines : List String} {ending : Session}
    (h : (s.converse lines).2 = .ok ending) : ending ∈ s.states lines := by
  induction lines generalizing s with
  | nil =>
    obtain rfl := Except.ok.inj h
    exact List.mem_singleton_self _
  | cons line lines ih =>
    rw [Session.converse] at h
    rw [Session.states]
    cases hasked : s.asked? with
    | none =>
      rw [hasked] at h
      obtain rfl := Except.ok.inj h
      exact List.mem_singleton_self _
    | some sq =>
      simp only [hasked] at h
      simp only []
      cases htake : s.take sq line with
      | error fault => simp only [htake] at h; cases h
      | ok result =>
        obtain ⟨next, said⟩ := result
        simp only [htake] at h
        exact List.mem_cons_of_mem _ (ih h)

/-- **The interview goes on as it should to its end**, whatever lines come. -/
theorem Proceeds.states (hids : form.DistinctIds) (hp : Number.Kept p)
    (h : Proceeds p form detailed s answers) {lines : List String}
    (hlines : ∀ line ∈ lines, WritesOnly p line) :
    ∀ s' ∈ s.states lines, ∃ answers', Proceeds p form detailed s' answers' := by
  -- a line changes the session and its answers, so both are general
  induction lines generalizing s answers with
  | nil =>
    intro s' hs'
    rw [List.mem_singleton.mp hs']
    exact ⟨answers, h⟩
  | cons line lines ih =>
    intro s' hs'
    rw [Session.states] at hs'
    rcases List.mem_cons.mp hs' with rfl | hs'
    · exact ⟨answers, h⟩
    · cases hasked : s.asked? with
      | none => rw [hasked] at hs'; cases hs'
      | some sq =>
        simp only [hasked] at hs'
        cases htake : s.take sq line with
        | error fault => rw [htake] at hs'; cases hs'
        | ok result =>
          obtain ⟨next, said⟩ := result
          simp only [htake] at hs'
          obtain ⟨answers', hnext⟩ := h.take hids hp hasked (hlines line (by simp)) htake
          exact ih hnext (fun l hl => hlines l (List.mem_cons_of_mem _ hl)) s' hs'

/-- **The interview comes to an end** while all numbers can be read again and again. -/
theorem Proceeds.exists_ending (hids : form.DistinctIds) (hp : Number.Lasting p)
    (h : Proceeds p form detailed s answers) {lines : List String}
    (hlines : ∀ line ∈ lines, WritesOnly p line) :
    ∃ ending, (s.converse lines).2 = .ok ending := by
  induction lines generalizing s answers with
  | nil => exact ⟨s, rfl⟩
  | cons line lines ih =>
    rw [Session.converse]
    cases hasked : s.asked? with
    | none => exact ⟨s, rfl⟩
    | some sq =>
      have hline := hlines line (by simp)
      obtain ⟨next, said, htake⟩ := h.exists_take hids hp hasked hline
      obtain ⟨answers', hnext⟩ := h.take hids hp.toKept hasked hline htake
      simp only [htake]
      exact ih hnext fun l hl => hlines l (List.mem_cons_of_mem _ hl)

end Step

end Interview

end Questionnaire
