import Questionnaire.Proofs.Preview.Status
import Questionnaire.Proofs.Service.Session

/-! # The outcome of a request

A host that holds answers it read from a text asks the service about them and reads the response. It
sees a failure with its message where there was one, whatever ids and texts the form and the answers
hold, and a text as it is (`outcome_reaches_host`). It also sees a result as it is, with one
exception. What is said about visibility is flat, but a preview repeats answers three levels down
and the report on a patch two, so that there are results that cannot be read
(`deep_answer_is_unreadable`). -/

namespace Questionnaire

open Decode.Source (textLevels)

/-! ### How deep results nest -/

theorem PreviewQuestion.field?_currentValue {q : PreviewQuestion} {value : Json}
    (h : q.currentValue = some value) : q.toJson.field? "current_value" = some value := by
  unfold toJson valueMembers
  rw [Json.field?_object, h]
  simp [Members.lookup]

theorem Preview.field?_questions (preview : Preview) :
    preview.toJson.field? "questions" = some (.arr (preview.questions.map (·.toJson))) := by
  unfold toJson
  rw [Json.field?_object]
  simp [Members.lookup]

section Depth
variable (form : Form) {answers : Answers} {levels n : Nat}

/-- **A preview nests three levels deeper than the answers that it repeats.** -/
theorem Form.depth_preview_le_iff (h : answers.toJson.Fits Number.Survives (levels + 1))
    (hn : 6 ≤ n) : (form.preview answers).toJson.depth ≤ n ↔
      ∀ q ∈ (form.preview answers).questions, ∀ value ∈ q.currentValue, value.depth + 3 ≤ n := by
  obtain ⟨n, rfl⟩ : ∃ k, n = k + 3 := ⟨n - 3, by omega⟩
  constructor
  · intro hdepth q hq value hvalue
    have hitems := Json.depth_lt_of_field? (form.preview answers).field?_questions
    have hitem := Json.depth_lt_of_mem_items (List.mem_map_of_mem (f := (·.toJson)) hq)
    have hmember := Json.depth_lt_of_field? (PreviewQuestion.field?_currentValue hvalue)
    omega
  · intro hvalues
    refine (Preview.fits_toJson (fun _ hx => hx) (by omega)
      (fun q hq value hvalue => ?_) (form.fits_answerSchema _)).tidy.depth_le
    have hdepth := Nat.le_of_add_le_add_right (hvalues q hq value hvalue)
    obtain ⟨node, -, rfl⟩ := List.mem_map.mp hq
    have hfits := (Answers.toJson_fits_iff.mp h).2 _ (Members.mem_of_lookup_eq_some hvalue)
    exact ⟨hfits.numbers, hfits.tidy.of_depth_le hdepth⟩

/-- **The report on a patch nests two levels deeper than the answers that it repeats.** -/
theorem Service.depth_patchReport_le_iff (h : answers.toJson.Fits Number.Survives levels)
    (hn : 4 ≤ n) : (patchReport form answers).depth ≤ n ↔
      ∀ member ∈ answers.members, member.2.depth + 2 ≤ n := by
  obtain ⟨n, rfl⟩ : ∃ k, n = k + 2 := ⟨n - 2, by omega⟩
  simp only [Nat.add_le_add_iff_right]
  rw [← Json.depth_obj_le_iff]
  constructor
  · intro hdepth
    have hfield : (patchReport form answers).field? "answers" = some answers.toJson := by
      unfold patchReport standing
      rw [Json.field?_object]
      simp [Members.lookup]
    have hlt := Json.depth_lt_of_field? hfield
    unfold Answers.toJson at hlt
    omega
  · intro hdepth
    exact (fits_patchReport form Number.lasting_survives.toKept (by omega)
      ⟨h.numbers, h.tidy.of_depth_le hdepth⟩).tidy.depth_le

end Depth

/-! ### Results -/

theorem VisibilityMap.fits_toJson (map : VisibilityMap) : map.toJson.Fits Number.Survives 1 := by
  refine .obj ?_ fun member hmember => ?_
  · rw [Members.Sorted, List.pairwise_map]
    exact map.ordered_keys_toList.imp fun h => compareOfLessAndEq_eq_lt.mp h
  · obtain ⟨pair, -, rfl⟩ := List.mem_map.mp hmember
    exact .bool _

namespace Service

variable {formId config id : String} {v : Json}

theorem isResult_visibility {sent : String} (h : visibility formId config sent = .ok v) :
    IsResult v ∧ v.depth ≤ 1 := by
  obtain ⟨form, -, hv⟩ := exists_of_bind_eq_ok h
  obtain rfl := Except.ok.inj hv
  have hfits := VisibilityMap.fits_toJson (form.ownVisibility (readAnswers sent))
  refine ⟨⟨⟨1, hfits⟩, ?_⟩, hfits.tidy.depth_le⟩
  -- there may be a question of that id, but what is said of it is no text
  unfold reportedFailure?
  rw [Json.field_eq_getD, field?_ownVisibility]
  cases (form.ownVisibility (readAnswers sent))["error"]? <;> rfl

theorem isResult_questionVisible {sent : String}
    (h : questionVisible formId config id sent = .ok v) : IsResult v ∧ v.depth ≤ 1 := by
  obtain ⟨form, -, h⟩ := exists_of_bind_eq_ok h
  obtain ⟨q, -, hv⟩ := exists_of_bind_eq_ok h
  obtain rfl := Except.ok.inj hv
  have hfits : (Json.object [("question_id", q.id.toJson),
      ("visible", .bool (isVisible q form.rules (readAnswers sent)))]).Fits Number.Survives 1 := by
    refine .object fun member hmember => ?_
    simp only [List.mem_cons, List.not_mem_nil, or_false] at hmember
    rcases hmember with rfl | rfl
    · exact .str _
    · exact .bool _
  refine ⟨⟨⟨1, hfits⟩, ?_⟩, hfits.tidy.depth_le⟩
  unfold reportedFailure?
  rw [Json.field_object]
  simp [Members.lookup, Json.text?]

section Answers
variable {answers : Answers} {levels : Nat}

theorem isResult_preview (form : Form) (h : answers.toJson.Fits Number.Survives levels) :
    IsResult (form.preview answers).toJson := by
  have hfits := form.fits_preview Number.lasting_survives.toKept (Nat.le_add_left 3 levels)
    (h.mono (by omega))
  have hfailure := Interview.reportedFailure?_passed (form.preview answers) Interview.passage_id
  rw [id_eq] at hfailure
  exact ⟨⟨_, hfits⟩, hfailure⟩

theorem isResult_patchReport (form : Form) (h : answers.toJson.Fits Number.Survives levels) :
    IsResult (patchReport form answers) := by
  have hfits := fits_patchReport form Number.lasting_survives.toKept (Nat.le_add_left 3 levels)
    (h.mono (by omega))
  refine ⟨⟨_, hfits⟩, ?_⟩
  have hfailure := reportedFailure?_patchReport form answers
  rwa [Json.Survives.reread_eq hfits.numbers] at hfailure

end Answers

/-! ### Texts -/

/-- The first line of a preview starts with the word for a form. -/
theorem exists_toList_text (preview : Preview) : ∃ cs, preview.text.toList = 'F' :: cs := by
  unfold Preview.text Preview.lines
  simp only [List.cons_append, List.nil_append, String.intercalate_cons_cons, String.append_assoc,
    String.toList_append]
  exact ⟨_, rfl⟩

/-! ### What a host sees -/

section Requests
variable {text value : String} {answers : Answers}

theorem exists_of_renderJson {sent : String} (h : renderJson formId config sent = .ok v) :
    ∃ form, loadForm formId config = .ok form ∧ v = (form.preview (readAnswers sent)).toJson := by
  obtain ⟨p, hp, -⟩ := exists_of_bind_eq_ok h
  obtain ⟨form, hform, -⟩ := exists_of_bind_eq_ok hp
  rw [renderJson_eq hform] at h
  exact ⟨form, hform, (Except.ok.inj h).symm⟩

theorem exists_of_submitPatch {sent : String}
    (h : submitPatch formId config sent id value = .ok v) :
    ∃ form w, loadForm formId config = .ok form ∧ Json.ofText value = .ok w ∧
      v = patchReport form ((readAnswers sent).insert ⟨id⟩ w) := by
  obtain ⟨form, hform, h⟩ := exists_of_bind_eq_ok h
  obtain ⟨_, -, h⟩ := exists_of_bind_eq_ok h
  obtain ⟨w, hw, hv⟩ := exists_of_bind_eq_ok h
  exact ⟨form, w, hform, eq_ok_of_mapError hw, (Except.ok.inj hv).symm⟩

/-- **The service has the answers** that a host read from a text and sends as a text. -/
theorem readAnswers_of_ofText (hload : Json.ofText text = .ok answers.toJson)
    (hnumbers : answers.toJson.Survives) : readAnswers answers.toJson.compact = answers := by
  have htidy := Json.tidy_of_ofText hload
  exact Answers.sent_of_depth_le ⟨hnumbers, htidy⟩ htidy.depth_le

/-- **A host sees the outcome of its request.** It sees failures with their message. It sees what is
said about visibility and the lines of a preview as they are, and of a preview and of the report on
a patch those that nest no deeper than is read. The first do when the answers that they show leave
three levels, the second when all answers leave two. -/
theorem outcome_reaches_host (formId config id : String)
    (hload : Json.ofText text = .ok answers.toJson) (hnumbers : answers.toJson.Survives)
    (hvalue : ∀ v, Json.ofText value = .ok v → v.Survives) :
    let sent := answers.toJson.compact
    readResponse (respond (visibility formId config sent)) = told (visibility formId config sent) ∧
      readResponse (respond (questionVisible formId config id sent)) =
        told (questionVisible formId config id sent) ∧
      readTextResponse (respondText (renderText formId config sent)) =
        told (renderText formId config sent) ∧
      readResponse (respond (renderJson formId config sent)) =
        received (renderJson formId config sent) ∧
      readResponse (respond (submitPatch formId config sent id value)) =
        received (submitPatch formId config sent id value) ∧
      (∀ v, renderJson formId config sent = .ok v →
        ∃ form, loadForm formId config = .ok form ∧ (v.depth ≤ textLevels ↔
          ∀ q ∈ (form.preview answers).questions, ∀ w ∈ q.currentValue,
            w.depth + 3 ≤ textLevels)) ∧
      ∀ v, submitPatch formId config sent id value = .ok v →
        ∃ w, Json.ofText value = .ok w ∧ (v.depth ≤ textLevels ↔
          ∀ member ∈ (answers.insert ⟨id⟩ w).members, member.2.depth + 2 ≤ textLevels) := by
  intro sent
  have hsent : readAnswers sent = answers := readAnswers_of_ofText hload hnumbers
  have hfits : answers.toJson.Fits Number.Survives textLevels :=
    ⟨hnumbers, Json.tidy_of_ofText hload⟩
  have hafter : ∀ w, Json.ofText value = .ok w →
      (answers.insert ⟨id⟩ w).toJson.Fits Number.Survives (textLevels + 1) := fun w hw =>
    Answers.toJson_fits_insert (hfits.mono (Nat.le_succ _)) _
      ⟨hvalue w hw, Json.tidy_of_ofText hw⟩
  refine ⟨?_, ?_, ?_, ?_, ?_, ?_, ?_⟩
  · rw [readResponse_respond fun v h => (isResult_visibility h).1]
    exact received_eq_told fun v h => (isResult_visibility h).2.trans (by decide)
  · rw [readResponse_respond fun v h => (isResult_questionVisible h).1]
    exact received_eq_told fun v h => (isResult_questionVisible h).2.trans (by decide)
  · refine readTextResponse_respondText fun s h => ?_
    obtain ⟨p, -, h⟩ := exists_of_bind_eq_ok h
    obtain rfl := Except.ok.inj h
    exact exists_toList_text p
  · refine readResponse_respond fun v h => ?_
    obtain ⟨form, -, rfl⟩ := exists_of_renderJson h
    rw [hsent]
    exact isResult_preview form hfits
  · refine readResponse_respond fun v h => ?_
    obtain ⟨form, w, -, hw, rfl⟩ := exists_of_submitPatch h
    rw [hsent]
    exact isResult_patchReport form (hafter w hw)
  · intro v h
    obtain ⟨form, hform, rfl⟩ := exists_of_renderJson h
    rw [hsent]
    exact ⟨form, hform,
      form.depth_preview_le_iff (hfits.mono (Nat.le_succ _)) (by decide)⟩
  · intro v h
    obtain ⟨form, w, -, hw, rfl⟩ := exists_of_submitPatch h
    rw [hsent]
    exact ⟨w, hw, depth_patchReport_le_iff form (hafter w hw) (by decide)⟩

end Requests

/-- Answers with a name. -/
def annAnswers : Answers := ⟨[("2", .str "Ann")]⟩

/-- A name is shown, and another one put in its place. -/
theorem outcome_reaches_host_bundled :
    Json.ofText annAnswers.toJson.compact = .ok annAnswers.toJson ∧
      readResponse (respond (renderJson "12" "" annAnswers.toJson.compact)) =
        .ok (bundledForm.preview annAnswers).toJson ∧
      readResponse (respond (submitPatch "12" "" annAnswers.toJson.compact "2"
        (Json.str "Eve").compact)) = .ok (patchReport bundledForm ⟨[("2", .str "Eve")]⟩) := by
  have hform : loadForm "12" "" = .ok bundledForm := rfl
  have hfits : annAnswers.toJson.Fits Number.Survives 3 :=
    Answers.toJson_fits_insert (Answers.fits_empty.mono (by decide)) ⟨"2"⟩ (.str "Ann")
  have hafter : (Answers.toJson ⟨[("2", .str "Eve")]⟩).Fits Number.Survives 3 :=
    Answers.toJson_fits_insert (Answers.fits_empty.mono (by decide)) ⟨"2"⟩ (.str "Eve")
  have hload := Json.ofText_compact_of_survives hfits.numbers (hfits.tidy.mono (by decide))
  have hvalue : Json.ofText (Json.str "Eve").compact = .ok (.str "Eve") :=
    Json.ofText_compact_of_survives (.str "Eve") (.str "Eve")
  have hrender : renderJson "12" "" annAnswers.toJson.compact =
      .ok (bundledForm.preview annAnswers).toJson := by
    rw [renderJson_eq hform, readAnswers_of_ofText hload hfits.numbers]
  have hpatch : Patch.value? ⟨"2", (Json.str "Eve").compact⟩ bundledForm = some (.str "Eve") :=
    value?_compact (by decide) (.str "Eve") (.str "Eve")
  have hsubmit := submitPatch_of_value hform hpatch annAnswers.toJson.compact
  rw [readAnswers_of_ofText hload hfits.numbers] at hsubmit
  obtain ⟨-, -, -, hseen, hchanged, -, -⟩ :=
    outcome_reaches_host "12" "" "2" hload hfits.numbers fun v h => by
      rw [hvalue] at h
      obtain rfl := Except.ok.inj h
      exact .str "Eve"
  have hshallow : (bundledForm.preview annAnswers).toJson.depth ≤ textLevels :=
    (bundledForm.fits_preview Number.lasting_survives.toKept (Nat.le_refl 3)
      (hfits.mono (by decide))).tidy.depth_le.trans (by decide)
  refine ⟨hload, ?_, ?_⟩
  · rw [hseen, hrender]
    exact if_pos hshallow
  · rw [hchanged, hsubmit]
    exact if_pos ((depth_patchReport_le_iff bundledForm hafter (by decide)).mpr (by decide))

/-! ### An answer that is too deep to be shown -/

/-- Answers that nest one level less than is read. -/
def deepAnswers : Answers := ⟨[("9", nested 125)]⟩

/-- **An answer that can be read but not be shown**: the service makes a preview of it, and a host
cannot read that. -/
theorem deep_answer_is_unreadable :
    Json.ofText deepAnswers.toJson.compact = .ok deepAnswers.toJson ∧
      ∃ v, renderJson "12" "" deepAnswers.toJson.compact = .ok v ∧
        readResponse (respond (renderJson "12" "" deepAnswers.toJson.compact)) =
          .error .unreadable := by
  have hform : loadForm "12" "" = .ok bundledForm := rfl
  have hfits : deepAnswers.toJson.Fits Number.Survives (125 + 1) :=
    Answers.toJson_fits_insert (Answers.fits_empty.mono (by decide)) ⟨"9"⟩ (fits_nested 125)
  have hload := Json.ofText_compact_of_survives hfits.numbers (hfits.tidy.mono (by decide))
  have hrender : renderJson "12" "" deepAnswers.toJson.compact =
      .ok (bundledForm.preview deepAnswers).toJson := by
    rw [renderJson_eq hform, readAnswers_of_ofText hload hfits.numbers]
  have hdeep : ¬ (bundledForm.preview deepAnswers).toJson.depth ≤ textLevels := by
    intro hdepth
    -- the last question of the form stands on the top level
    let last : Question := { bundledQuestion "9" "Remarks" .freeText none 3 with required := false }
    obtain ⟨node, hnode, hquestion⟩ :
        ∃ node ∈ (Outline.ofQuestions bundledForm.questions).reachable, node.question = last :=
      Outline.mem_walk_iff.mpr ⟨⟨8, last⟩, .top rfl rfl rfl, rfl⟩
    have hvalue : deepAnswers.get? node.question.id = some (nested 125) := by
      rw [hquestion]
      rfl
    have hlevels := (bundledForm.depth_preview_le_iff hfits (by decide)).mp
      hdepth _ (mem_preview_questions_iff.mpr ⟨node, hnode, rfl⟩) _ hvalue
    rw [depth_nested] at hlevels
    exact absurd hlevels (by decide)
  refine ⟨hload, _, hrender, ?_⟩
  rw [hrender, readResponse_ok (isResult_preview bundledForm hfits), if_neg hdeep]

end Service

end Questionnaire
