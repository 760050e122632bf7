import Mathlib.Data.List.Nodup
import Questionnaire.Preview.Basic
import Questionnaire.Proofs.Document.Agreement
import Questionnaire.Proofs.Json.Shape
import Questionnaire.Proofs.Validation.Report
import Questionnaire.Service.Bundled

/-! # What is asked

Three parts of the program choose the questions that a respondent is asked: the schema of the
answers and validation go through the list of the form, the one taking what the map of what is
visible does not name for visible and the other for hidden, and the preview goes through the
outline. All three choose the same (`schema_preview_and_validation_agree`), since the map names
every question (`schemaQuestions_eq`), and what it shows stands in the outline
(`seenLeaves_perm`). -/

namespace Questionnaire

open Outline

/-! ### The keys of an object -/

namespace Members

variable {α : Type}

theorem mem_keys_ofList {pairs : List (String × α)} {key : String} :
    key ∈ (ofList pairs).map (·.1) ↔ key ∈ pairs.map (·.1) := by
  have hlookup : ∀ members : List (String × α),
      key ∈ members.map (·.1) ↔ ¬ lookup key members = none := by
    intro members
    rw [lookup_eq_none_iff]
    simp
  rw [hlookup, hlookup, lookup_ofList, lookup_eq_none_iff, lookup_eq_none_iff]
  simp only [List.mem_reverse]

/-- **An object has the keys that it is made with**, where none is repeated. -/
theorem keys_ofList_perm {pairs : List (String × α)} (h : (pairs.map (·.1)).Nodup) :
    ((ofList pairs).map (·.1)).Perm (pairs.map (·.1)) := by
  have hnodup : ((ofList pairs).map (·.1)).Nodup := by
    rw [List.Nodup, List.pairwise_map]
    exact (sorted_ofList pairs).imp fun hlt => ne_of_lt hlt
  rw [List.perm_ext_iff_of_nodup hnodup h]
  intro key
  exact mem_keys_ofList

end Members

section Questions
variable {form : Form} {answers : Answers}

/-! ### The questions of the schema -/

/-- **The schema describes the questions that validation looks at**: the map names them all. -/
theorem schemaQuestions_eq (form : Form) (answers : Answers) :
    form.schemaQuestions (form.effectiveVisibility answers) =
      form.visibleLeaves (form.effectiveVisibility answers) := by
  unfold Form.schemaQuestions Form.visibleLeaves
  refine List.filter_congr fun q hq => ?_
  have hmem : q.id.text ∈ form.effectiveVisibility answers :=
    mem_effectiveVisibility_iff.mpr ⟨q, hq, rfl⟩
  rw [Std.TreeMap.mem_iff_isSome_getElem?] at hmem
  obtain ⟨shown, hshown⟩ := Option.isSome_iff_exists.mp hmem
  rw [hshown]
  rfl

/-- A property for each question that validation looks at. -/
def propertiesOf (form : Form) (answers : Answers) : List (String × Json) :=
  (form.visibleLeaves (form.effectiveVisibility answers)).map fun q => (q.id.text, q.answerSchema)

theorem map_fst_propertiesOf : (propertiesOf form answers).map (·.1) =
    ((form.visibleLeaves (form.effectiveVisibility answers)).map (·.id)).map (·.text) := by
  unfold propertiesOf
  rw [List.map_map, List.map_map]
  rfl

theorem field?_properties (form : Form) (answers : Answers) :
    (form.answerSchema (form.effectiveVisibility answers)).field? "properties" =
      some (.object (propertiesOf form answers)) := by
  unfold Form.answerSchema propertiesOf
  rw [Json.field?_object, schemaQuestions_eq]
  rfl

theorem field?_required (form : Form) (answers : Answers) :
    (form.answerSchema (form.effectiveVisibility answers)).field? "required" =
      some (.arr ((((form.visibleLeaves (form.effectiveVisibility answers)).filter
        (·.required)).map (·.id)).map ItemId.toJson)) := by
  unfold Form.answerSchema
  rw [Json.field?_object, schemaQuestions_eq, List.map_map]
  rfl

/-! ### The questions of the preview -/

/-- The nodes that are seen and can be answered. -/
def seenLeaves (form : Form) (answers : Answers) : List Node :=
  (form.visibleNodes answers).filter fun node => !node.question.isSection

theorem map_id_visibleLeaves (hids : form.DistinctIds) :
    (Preview.visibleLeaves (form.preview answers).questions).map (·.id) =
      ((seenLeaves form answers).map (·.question.id)).map (·.text) := by
  have hvisible : Preview.visibleLeaves (form.preview answers).questions =
      (form.preview answers).visible.filter (·.isLeaf) := by
    unfold Preview.visibleLeaves Preview.visible
    rw [List.filter_filter]
    exact List.filter_congr fun q _ => Bool.and_comm _ _
  rw [hvisible, preview_visible_eq hids, List.filter_map, List.map_map, List.map_map]
  rfl

theorem nodup_visibleLeaves (hids : form.DistinctIds) :
    ((form.visibleLeaves (form.effectiveVisibility answers)).map (·.id)).Nodup :=
  hids.sublist (List.filter_sublist.map _)

/-- **What validation looks at is what is seen in the outline**, in another order. -/
theorem seenLeaves_perm (hids : form.DistinctIds) :
    ((seenLeaves form answers).map (·.question.id)).Perm
      ((form.visibleLeaves (form.effectiveVisibility answers)).map (·.id)) := by
  have hnodes : ((seenLeaves form answers).map (·.question.id)).Nodup := by
    have hwalk := nodup_walk_ids hids fun q => isVisible q form.rules answers
    rw [← visibleNodes_eq] at hwalk
    exact hwalk.sublist (List.filter_sublist.map _)
  rw [List.perm_ext_iff_of_nodup hnodes (nodup_visibleLeaves hids)]
  intro id
  simp only [seenLeaves, List.mem_map, List.mem_filter, mem_visibleLeaves_iff hids,
    Bool.not_eq_true']
  constructor
  · rintro ⟨node, ⟨hnode, hleaf⟩, rfl⟩
    exact ⟨node.question, ⟨mem_visibleNodes_iff.mp ⟨node, hnode, rfl⟩, hleaf⟩, rfl⟩
  · rintro ⟨q, ⟨hseen, hleaf⟩, rfl⟩
    obtain ⟨node, hnode, rfl⟩ := mem_visibleNodes_iff.mpr hseen
    exact ⟨node, ⟨hnode, hleaf⟩, rfl⟩

/-- **The properties are the questions of the preview.** -/
theorem keys_propertiesOf_perm (hids : form.DistinctIds) (answers : Answers) :
    ((Members.ofList (propertiesOf form answers)).map (·.1)).Perm
      ((Preview.visibleLeaves (form.preview answers).questions).map (·.id)) := by
  have hnodup : ((propertiesOf form answers).map (·.1)).Nodup := by
    rw [map_fst_propertiesOf]
    exact (nodup_visibleLeaves hids).map fun _ _ hid => ItemId.ext hid
  rw [map_id_visibleLeaves hids]
  refine (Members.keys_ofList_perm hnodup).trans ?_
  rw [map_fst_propertiesOf]
  exact ((seenLeaves_perm hids).map _).symm

/-! ### What validation reports -/

theorem filter_required_eq_missingRequired :
    (((form.visibleLeaves (form.effectiveVisibility answers)).filter (·.required)).map
        (·.id)).filter (fun id => !answers.isAnswered id) =
      (form.validate answers).missingRequired := by
  rw [missingRequired_eq, List.filter_map, List.filter_filter]
  have hfilter : ∀ q ∈ form.visibleLeaves (form.effectiveVisibility answers),
      (!answers.isAnswered q.id && q.required) = (q.required && !answers.isAnswered q.id) :=
    fun q _ => Bool.and_comm _ _
  exact congrArg _ (List.filter_congr hfilter)

theorem mem_visibleLeaves_of_error {e : ValidationError}
    (he : e ∈ (form.validate answers).errors) :
    e.question ∈ (form.visibleLeaves (form.effectiveVisibility answers)).map (·.id) := by
  rw [errors_eq] at he
  obtain ⟨q, hq, hproblem⟩ := List.mem_filterMap.mp he
  obtain ⟨value, -, -, hid⟩ := errorOf_eq_some_iff.mp hproblem
  exact List.mem_map.mpr ⟨q, hq, hid⟩

end Questions

/-! ### Schema, validation and preview -/

/-- **Schema, validation and preview ask the same questions.** Where no id is repeated, the schema
of the answers has a property for each visible question of the preview that can be answered, and
for nothing else, so that there are as many as the progress counts. What it requires and is not
answered is what validation misses, in the same order, and validation finds no error with anything
but these properties. -/
theorem schema_preview_and_validation_agree (form : Form) (hids : form.DistinctIds)
    (answers : Answers) :
    ∃ (properties : List (String × Json)) (required : List ItemId),
      (form.answerSchema (form.effectiveVisibility answers)).field? "properties" =
          some (.obj properties) ∧
        (form.answerSchema (form.effectiveVisibility answers)).field? "required" =
          some (.arr (required.map ItemId.toJson)) ∧
        (properties.map (·.1)).Perm
          ((Preview.visibleLeaves (form.preview answers).questions).map (·.id)) ∧
        properties.length = (form.preview answers).progress.total ∧
        required.filter (fun id => !answers.isAnswered id) =
          (form.validate answers).missingRequired ∧
        ∀ e ∈ (form.validate answers).errors, e.question.text ∈ properties.map (·.1) := by
  have hperm := keys_propertiesOf_perm hids answers
  refine ⟨Members.ofList (propertiesOf form answers), _, field?_properties form answers,
    field?_required form answers, hperm, ?_, filter_required_eq_missingRequired, fun e he => ?_⟩
  · have hlength := hperm.length_eq
    rw [List.length_map, List.length_map] at hlength
    exact hlength
  · rw [Members.mem_keys_ofList, map_fst_propertiesOf]
    exact List.mem_map_of_mem (mem_visibleLeaves_of_error he)

/-- The bundled form with a specialist chosen: six questions are asked, among them those of the
section that this shows, and three answers are missing. -/
theorem schema_preview_and_validation_agree_bundled :
    Service.bundledForm.DistinctIds ∧
      (∃ (properties : List (String × Json)) (required : List ItemId),
        (Service.bundledForm.answerSchema
            (Service.bundledForm.effectiveVisibility ⟨[("3", .str "32")]⟩)).field? "properties" =
          some (.obj properties) ∧
        (Service.bundledForm.answerSchema
            (Service.bundledForm.effectiveVisibility ⟨[("3", .str "32")]⟩)).field? "required" =
          some (.arr (required.map ItemId.toJson)) ∧
        (properties.map (·.1)).Perm ["2", "3", "5", "6", "7", "9"] ∧
        properties.length = (Service.bundledForm.preview ⟨[("3", .str "32")]⟩).progress.total ∧
        required.filter (fun id => !Answers.isAnswered ⟨[("3", .str "32")]⟩ id) =
          (Service.bundledForm.validate ⟨[("3", .str "32")]⟩).missingRequired) ∧
      (Service.bundledForm.validate ⟨[("3", .str "32")]⟩).missingRequired =
        [⟨"2"⟩, ⟨"5"⟩, ⟨"7"⟩] := by
  have hids : Service.bundledForm.DistinctIds := by decide
  obtain ⟨properties, required, hproperties, hrequired, hkeys, htotal, hmissing, -⟩ :=
    schema_preview_and_validation_agree Service.bundledForm hids ⟨[("3", .str "32")]⟩
  have hleaves : (Preview.visibleLeaves
      (Service.bundledForm.preview ⟨[("3", .str "32")]⟩).questions).map (·.id) =
        ["2", "3", "5", "6", "7", "9"] := by
    rw [map_id_visibleLeaves hids, seenLeaves, Service.visibleNodes_bundledForm]
    decide
  rw [hleaves] at hkeys
  refine ⟨hids, ⟨properties, required, hproperties, hrequired, hkeys, htotal, hmissing⟩, ?_⟩
  rw [missingRequired_eq, Form.effectiveVisibility, Service.visibleNodes_bundledForm]
  decide +kernel

end Questionnaire
