import Questionnaire.Interview.Session
import Questionnaire.Proofs.Interview.Sheet
import Questionnaire.Proofs.Service.Response
import Questionnaire.Proofs.Visibility.Policy

/-! # What passes between interviewer and service

Answers go to the service as text and come back as text, and so does the value of a reply. What the
service has of them is what is read back, or nothing at all (`Answers.sent_eq_or`). A sheet is that
of the preview for these answers (`Setting.eq_of_sheet`), and the report on a patch holds them with
the value put in, and the problems that validation finds then (`Setting.eq_of_submit`). Neither
exchange fails while all numbers can be read again and again (`Setting.exists_sheet`,
`Setting.exists_submit`). -/

namespace Questionnaire

open Interview

/-! ### Answers as text -/

namespace Answers

/-- The answers that are read from the text of some answers. -/
def reread (answers : Answers) : Answers := ofJson answers.toJson.reread

theorem toJson_reread (answers : Answers) : answers.reread.toJson = answers.toJson.reread := by
  unfold reread toJson
  rw [Json.reread_obj]
  rfl

theorem members_reread (answers : Answers) : answers.reread.members =
    answers.members.map fun member => (member.1, member.2.reread) :=
  Json.obj.inj ((toJson_reread answers).trans (Json.reread_obj answers.members))

theorem get?_reread (answers : Answers) (id : ItemId) :
    answers.reread.get? id = (answers.get? id).map Json.reread := by
  unfold get?
  rw [members_reread, Members.lookup_map]

theorem keys_reread (answers : Answers) : answers.reread.keys = answers.keys := by
  unfold keys
  rw [members_reread, List.map_map]
  rfl

variable {p : Number → Prop}

/-- Every number in the answers has the property, and lists are all that they nest. -/
abbrev Fits (p : Number → Prop) (answers : Answers) : Prop := answers.toJson.Fits p 2

theorem toJson_fits_iff {answers : Answers} {levels : Nat} :
    answers.toJson.Fits p (levels + 1) ↔
      Members.Sorted answers.members ∧ ∀ member ∈ answers.members, member.2.Fits p levels := by
  constructor
  · rintro ⟨hnumbers, htidy⟩
    cases hnumbers with
    | obj hnumbers =>
      cases htidy with
      | obj hsorted htidy =>
        exact ⟨hsorted, fun member hmem => ⟨hnumbers member hmem, htidy member hmem⟩⟩
  · rintro ⟨hsorted, h⟩
    exact .obj hsorted h

theorem toJson_fits_insert {answers : Answers} {levels : Nat}
    (h : answers.toJson.Fits p (levels + 1)) (id : ItemId) {value : Json}
    (hvalue : value.Fits p levels) : (answers.insert id value).toJson.Fits p (levels + 1) := by
  obtain ⟨hsorted, hmembers⟩ := toJson_fits_iff.mp h
  refine toJson_fits_iff.mpr ⟨Members.sorted_insert hsorted _ _, fun member hmem => ?_⟩
  rcases Members.mem_insert hmem with rfl | hmem
  · exact hvalue
  · exact hmembers member hmem

theorem fits_iff {answers : Answers} :
    answers.Fits p ↔
      Members.Sorted answers.members ∧ ∀ member ∈ answers.members, member.2.Fits p 1 :=
  toJson_fits_iff

theorem fits_empty : empty.Fits p := fits_iff.mpr ⟨List.Pairwise.nil, fun _ h => by cases h⟩

theorem Fits.insert {answers : Answers} (h : answers.Fits p) (id : ItemId) {value : Json}
    (hvalue : value.Fits p 1) : (answers.insert id value).Fits p :=
  toJson_fits_insert h id hvalue

theorem Fits.get? {answers : Answers} (h : answers.Fits p) {id : ItemId} {value : Json}
    (hget : answers.get? id = some value) : value.Fits p 1 :=
  (fits_iff.mp h).2 _ (Members.mem_of_lookup_eq_some hget)

/-- The answers as the service has them when it is sent their text. -/
def sent (answers : Answers) : Answers := Service.readAnswers answers.toJson.compact

/-- **What is sent arrives as what is read back**, or not at all. -/
theorem sent_eq_or {answers : Answers} (h : answers.Fits p) :
    answers.sent = answers.reread ∨ answers.sent = .empty := by
  unfold sent Service.readAnswers
  cases hread : Json.ofText answers.toJson.compact with
  | error e => exact .inr rfl
  | ok value =>
    obtain ⟨-, rfl⟩ := Json.eq_of_ofText_compact (h.tidy.mono (by decide)) hread
    exact .inl rfl

theorem sent_eq_reread {answers : Answers} (h : answers.Fits Number.Legible) :
    answers.sent = answers.reread := by
  unfold sent Service.readAnswers
  rw [Json.ofText_compact h.numbers (h.tidy.mono (by decide))]
  rfl

/-- Answers whose numbers survive arrive as they are. -/
theorem sent_eq {answers : Answers} (h : answers.Fits Number.Survives) :
    answers.sent = answers := by
  rw [sent_eq_reread (h.imp fun _ => Number.Survives.legible), reread,
    Json.Survives.reread_eq h.numbers]
  rfl

theorem Fits.reread (hp : Number.Kept p) {answers : Answers} (h : answers.Fits p) :
    answers.reread.Fits p := by
  rw [Fits, toJson_reread]
  exact Json.Fits.reread hp h

theorem Fits.sent (hp : Number.Kept p) {answers : Answers} (h : answers.Fits p) :
    answers.sent.Fits p := by
  rcases sent_eq_or h with heq | heq
  · rw [heq]; exact h.reread hp
  · rw [heq]; exact fits_empty

end Answers

/-! ### What the service sends -/

variable {p : Number → Prop}

/-- The preview nests two levels deeper than the answers. -/
theorem Form.fits_preview (form : Form) (hp : Number.Kept p) {levels : Nat} (hlevels : 3 ≤ levels)
    {answers : Answers} (h : answers.toJson.Fits p (levels + 1)) :
    (form.preview answers).toJson.Fits p (levels + 3) := by
  refine Preview.fits_toJson hp.survives hlevels (fun q hq value hvalue => ?_)
    ((form.fits_answerSchema _).imp hp.survives)
  obtain ⟨node, -, rfl⟩ := List.mem_map.mp hq
  exact (Answers.toJson_fits_iff.mp h).2 _ (Members.mem_of_lookup_eq_some hvalue)

theorem ValidationError.fits_toJson (e : ValidationError) : e.toJson.Fits Number.Survives 1 := by
  refine .object fun member hmember => ?_
  simp only [List.mem_cons, List.not_mem_nil, or_false] at hmember
  rcases hmember with rfl | rfl | rfl | rfl <;> exact .str _

theorem ValidationReport.fits_toJson (report : ValidationReport) :
    report.toJson.Fits Number.Survives 3 := by
  refine .object fun member hmember => ?_
  simp only [List.mem_cons, List.not_mem_nil, or_false] at hmember
  rcases hmember with rfl | rfl | rfl | rfl
  · exact .bool _
  · exact .arr_map fun e _ => e.fits_toJson
  · exact .arr_map fun id _ => .str id.text
  · exact .arr_map fun field _ => .str field

namespace Service

/-- The report nests one level deeper than the answers. -/
theorem fits_patchReport (form : Form) (hp : Number.Kept p) {levels : Nat} (hlevels : 3 ≤ levels)
    {answers : Answers} (h : answers.toJson.Fits p levels) :
    (patchReport form answers).Fits p (levels + 1) := by
  refine .object fun member hmember => ?_
  simp only [standing, List.cons_append, List.nil_append, List.mem_cons, List.not_mem_nil,
    or_false] at hmember
  rcases hmember with rfl | rfl | rfl | rfl | rfl
  · exact .str _
  · exact .ofText? _
  · exact ((Progress.fits_toJson _).imp hp.survives).mono (by omega)
  · exact h
  · exact ((ValidationReport.fits_toJson _).imp hp.survives).mono hlevels

section Report
variable (form : Form) (answers : Answers)

theorem field_patchReport (key : String) :
    (patchReport form answers).field key = (Members.lookup key
      [("validation", (form.validate answers).toJson), ("answers", answers.toJson),
        ("progress", (form.preview answers).progress.toJson),
        ("next_question_id", .ofText? (form.preview answers).nextQuestionId),
        ("status", .str (if (form.validate answers).errors.isEmpty then
          (form.preview answers).status.label else "error"))]).getD .null := by
  unfold patchReport
  rw [Json.field_object]
  rfl

theorem reportedFailure?_patchReport :
    reportedFailure? (patchReport form answers).reread = none := by
  unfold reportedFailure?
  rw [Json.field_reread, Json.text?_reread, field_patchReport]
  simp [Members.lookup, Json.text?]

theorem field_answers_patchReport :
    (patchReport form answers).reread.field "answers" = answers.reread.toJson := by
  rw [Json.field_reread, field_patchReport, Answers.toJson_reread]
  simp [Members.lookup]

theorem errors_patchReport :
    (((patchReport form answers).reread.field "validation").field "errors").items? =
      some (((form.validate answers).errors.map (·.toJson)).map Json.reread) := by
  have hvalidation : (patchReport form answers).field "validation" =
      (form.validate answers).toJson := by
    rw [field_patchReport]; simp [Members.lookup]
  have herrors : (form.validate answers).toJson.field "errors" =
      .arr ((form.validate answers).errors.map (·.toJson)) := by
    unfold ValidationReport.toJson
    rw [Json.field_object]; simp [Members.lookup]
  rw [Json.field_reread, hvalidation, Json.field_reread, herrors, Json.reread_arr]
  rfl

theorem text?_field_error (e : ValidationError) :
    (e.toJson.reread.field "question_id").text? = some e.question.text ∧
      (e.toJson.reread.field "message").text? = some e.problem.message := by
  rw [Json.field_reread, Json.field_reread, Json.text?_reread, Json.text?_reread]
  unfold ValidationError.toJson
  rw [Json.field_object, Json.field_object]
  simp [Members.lookup, Json.text?, ItemId.toJson]

/-- **The problems that a report names for a question** are those that validation finds. -/
theorem problemsWith_patchReport (id : String) :
    problemsWith (patchReport form answers).reread id =
      ((form.validate answers).errors.filter fun e => e.question.text == id).map
        fun e => e.problem.message := by
  unfold problemsWith
  simp only []
  rw [errors_patchReport, Option.getD_some, List.map_map, List.filter_map, List.map_map]
  have hfilter : ((form.validate answers).errors.filter fun e =>
      (e.toJson.reread.field "question_id").text? == some id) =
        (form.validate answers).errors.filter fun e => e.question.text == id :=
    List.filter_congr fun e _ => by rw [(text?_field_error e).1]; simp
  refine (congrArg _ hfilter).trans (List.map_congr_left fun e _ => ?_)
  simp [Function.comp, (text?_field_error e).2]

end Report

end Service

/-! ### What the interviewer gets -/

namespace Interview.Setting

open Service

/-- The setting of an interview about a form. -/
abbrev about (form : Form) (detailed : Bool) : Setting := ⟨form.id.text, configText form, detailed⟩

variable (form : Form) (detailed : Bool)

/-- What is got out of a response is what comes back of the value in it. -/
theorem eq_of_readResponse {v w : Json} {levels : Nat} (htidy : v.Tidy levels)
    (hlevels : levels ≤ 127) (h : readResponse (respond (.ok v)) = .ok w) : w = v.reread := by
  unfold readResponse respond at h
  cases hread : Json.ofText v.compact with
  | error e => simp only [hread] at h; cases h
  | ok value =>
    obtain ⟨-, rfl⟩ := Json.eq_of_ofText_compact (htidy.mono hlevels) hread
    simp only [hread] at h
    split at h
    · cases h
    · exact (Except.ok.inj h).symm

theorem exists_readResponse (hp : Number.Lasting p) {v : Json} {levels : Nat}
    (h : v.Fits p levels) (hlevels : levels ≤ 127) (hfailure : reportedFailure? v.reread = none) :
    ∃ w, readResponse (respond (.ok v)) = .ok w := by
  have hread := Json.ofText_compact (h.numbers.imp hp.legible) (h.tidy.mono hlevels)
  refine ⟨v.reread, ?_⟩
  unfold readResponse respond
  simp only [hread, hfailure]

/-! ### Sheets -/

section Session

variable {answers : Answers} {skipped : List String}

theorem renderJson_eq (answers : Answers) :
    renderJson form.id.text (configText form) answers.toJson.compact =
      .ok (form.preview answers.sent).toJson :=
  Service.renderJson_eq (loadForm_configText form)

/-- **The sheet is that of the preview** for the answers as the service has them. -/
theorem eq_of_sheet (hp : Number.Kept p) (h : answers.Fits p) {sheet : Sheet}
    (hsheet : (about form detailed).sheet answers.toJson = .ok sheet) :
    sheet = .ofPreview (form.preview answers.sent) := by
  unfold Setting.sheet at hsheet
  rw [renderJson_eq] at hsheet
  obtain ⟨value, hread, hsheet⟩ := exists_of_bind_eq_ok hsheet
  have hfits := form.fits_preview hp (Nat.le_refl 3) ((h.sent hp).mono (by decide))
  obtain rfl := eq_of_readResponse hfits.tidy (by decide) (eq_ok_of_mapError hread)
  rw [Sheet.ofJson_passed _ passage_reread] at hsheet
  exact (Except.ok.inj hsheet).symm

theorem exists_sheet (hp : Number.Lasting p) (h : answers.Fits p) :
    ∃ sheet, (about form detailed).sheet answers.toJson = .ok sheet := by
  have hfits := form.fits_preview hp.toKept (Nat.le_refl 3) ((h.sent hp.toKept).mono (by decide))
  obtain ⟨value, hvalue⟩ := exists_readResponse hp hfits (by decide)
    (reportedFailure?_passed _ passage_reread)
  obtain rfl := eq_of_readResponse hfits.tidy (by decide) hvalue
  refine ⟨.ofPreview (form.preview answers.sent), ?_⟩
  unfold Setting.sheet
  rw [renderJson_eq]
  simp only [hvalue, Except.mapError, bind, Except.bind,
    Sheet.ofJson_passed _ passage_reread]

/-- What an interview is when it is opened. -/
theorem eq_of_session (hp : Number.Kept p) (h : answers.Fits p) {s : Session}
    (hs : (about form detailed).session answers.toJson skipped = .ok s) :
    s = ⟨about form detailed, .ofPreview (form.preview answers.sent), answers.toJson, skipped,
      true⟩ := by
  obtain ⟨sheet, hsheet, hs⟩ := exists_of_bind_eq_ok hs
  rw [← eq_of_sheet form detailed hp h hsheet]
  exact (Except.ok.inj hs).symm

/-- **An interview can be opened** with any answers whose numbers can be read again and again. -/
theorem exists_session (hp : Number.Lasting p) (h : answers.Fits p) (skipped : List String) :
    ∃ s, (about form detailed).session answers.toJson skipped = .ok s := by
  obtain ⟨sheet, hsheet⟩ := exists_sheet form detailed hp h
  unfold session
  rw [hsheet]
  exact ⟨_, rfl⟩

end Session

/-! ### Patches -/

section Patch

variable {answers : Answers} {id : ItemId} {value : Json}

theorem submitPatch_eq (hid : form.hasQuestion id.text = true) (answers : Answers)
    (value : String) :
    submitPatch form.id.text (configText form) answers.toJson.compact id.text value =
      ((Json.ofText value).mapError .answerValue).map fun value =>
        patchReport form (answers.sent.insert id value) := by
  obtain ⟨q, hfind⟩ := findQuestion_of_hasQuestion hid
  rw [Service.submitPatch_eq (loadForm_configText form), hfind]
  rfl

/-- **The report on a patch** tells of the answers with the value put in. -/
theorem eq_of_submit (hp : Number.Kept p) (hid : form.hasQuestion id.text = true)
    (h : answers.Fits p) (hvalue : value.Fits p 1) {report : Json}
    (hsubmit : (about form detailed).submit answers.toJson id.text value = .ok report) :
    report = (patchReport form (answers.sent.insert id value.reread)).reread := by
  unfold submit at hsubmit
  rw [submitPatch_eq form hid] at hsubmit
  have hresponse := eq_ok_of_mapError hsubmit
  cases hread : Json.ofText value.compact with
  | error e =>
    rw [hread] at hresponse
    rw [Except.mapError, Except.map, readResponse_error] at hresponse
    cases hresponse
  | ok value' =>
    obtain ⟨-, rfl⟩ := Json.eq_of_ofText_compact (hvalue.tidy.mono (by decide)) hread
    have hfits := ((h.sent hp).insert id (hvalue.reread hp)).mono (show 2 ≤ 3 by decide)
    rw [hread] at hresponse
    exact eq_of_readResponse (fits_patchReport form hp (Nat.le_refl 3) hfits).tidy (by decide)
      hresponse

theorem exists_submit (hp : Number.Lasting p) (hid : form.hasQuestion id.text = true)
    (h : answers.Fits p) (hvalue : value.Fits p 1) :
    ∃ report, (about form detailed).submit answers.toJson id.text value = .ok report := by
  have hread := Json.ofText_compact (hvalue.numbers.imp hp.legible) (hvalue.tidy.mono (by decide))
  have hfits := ((h.sent hp.toKept).insert id (hvalue.reread hp.toKept)).mono (show 2 ≤ 3 by decide)
  obtain ⟨w, hw⟩ := exists_readResponse hp (fits_patchReport form hp.toKept (Nat.le_refl 3) hfits)
    (by decide) (reportedFailure?_patchReport form _)
  refine ⟨w, ?_⟩
  unfold submit
  rw [submitPatch_eq form hid, hread]
  exact congrArg (Except.mapError Fault.response) hw

end Patch

end Interview.Setting

end Questionnaire
