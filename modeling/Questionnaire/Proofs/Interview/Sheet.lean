import Questionnaire.Proofs.Preview.Reread
import Questionnaire.Service.Response

/-! # What the sheet tells

The interviewer's sheet is read off the preview, as it is or as it came back from its text
(`Passage`). It says what the preview says (`Sheet.ofJson_passed`): every question with its text,
kind and options, and its answer as text if that is not empty. Counts past the range of integers are
the only thing that gets lost. -/

namespace Questionnaire.Interview

/-- A count as it is read again; one past the range of integers reads as zero. -/
def recount (n : Nat) : Nat := (Json.ofNat n).nat?.getD 0

/-- What the sheet says of a question. -/
def SheetQuestion.ofPreview (q : PreviewQuestion) : SheetQuestion where
  id := q.id
  text := q.text
  description := q.description
  placeholder := q.placeholder
  kind := q.kind
  depth := recount q.depth
  required := q.required
  multiple := decide (q.kind = .multipleChoice) && q.multiple
  visible := q.visible
  options := if q.kind = .multipleChoice then q.options else []
  displayValue :=
    if q.currentValue.isSome && !q.displayValue.isEmpty then some q.displayValue else none

/-- What the sheet says of a form. -/
def Sheet.ofPreview (preview : Preview) : Sheet where
  title := preview.formTitle
  help := preview.help
  status := preview.status
  progress := ⟨recount preview.progress.answered, recount preview.progress.total⟩
  questions := preview.questions.map .ofPreview

/-! ### On the way -/

/-- **What may happen to a value on the way**: some of its numbers change, but no count does. -/
structure Passage (f : Json → Json) : Prop where
  field (v : Json) (key : String) : (f v).field key = f (v.field key)
  text? (v : Json) : (f v).text? = v.text?
  bool? (v : Json) : (f v).bool? = v.bool?
  items? (v : Json) : (f v).items? = v.items?.map (·.map f)
  isObject (v : Json) : (f v).isObject = v.isObject
  ofNat (n : Nat) : f (.ofNat n) = .ofNat n

/-- A value may arrive as it is. -/
theorem passage_id : Passage id where
  field _ _ := rfl
  text? _ := rfl
  bool? _ := rfl
  items? v := by rw [List.map_id_fun, Option.map_id_fun]; rfl
  isObject _ := rfl
  ofNat n := id_eq (Json.ofNat n)

/-- A value may be written as text and read again. -/
theorem passage_reread : Passage Json.reread where
  field := Json.field_reread
  text? := Json.text?_reread
  bool? := Json.bool?_reread
  items? := Json.items?_reread
  isObject v := by cases v <;> rfl
  ofNat n := Json.Survives.reread_eq (fits_ofNat n : (Json.ofNat n).Fits _ 0).numbers

variable {f : Json → Json}

/-! ### Reading a question -/

theorem lookup_optionalMember (key key' : String) (text : Option String) :
    Members.lookup key (optionalMember key' text).reverse =
      if key = key' then text.map Json.str else none := by
  cases text <;> simp [optionalMember, Members.lookup]

theorem lookup_choiceMembers (key : String) (q : PreviewQuestion) :
    Members.lookup key q.choiceMembers.reverse =
      if q.kind = .multipleChoice then
        if key = "options" then some (.arr (q.options.map (·.toJson)))
        else if key = "multiple" then some (.bool q.multiple) else none
      else none := by
  unfold PreviewQuestion.choiceMembers
  split <;> simp [Members.lookup]

theorem lookup_valueMembers_of_ne {key : String} (h : key ≠ "current_value") (q : PreviewQuestion) :
    Members.lookup key q.valueMembers.reverse =
      if key = "display_value" then q.currentValue.map fun _ => .str q.displayValue else none := by
  unfold PreviewQuestion.valueMembers
  split
  · next value hvalue => simp [Members.lookup, h, hvalue]
  · next hvalue => simp [Members.lookup, hvalue]

theorem field?_toJson {key : String} (h : key ≠ "current_value") (q : PreviewQuestion) :
    q.toJson.field? key =
      (if key = "display_value" then q.currentValue.map fun _ => .str q.displayValue else none).or
        ((if q.kind = .multipleChoice then
          if key = "options" then some (.arr (q.options.map (·.toJson)))
          else if key = "multiple" then some (.bool q.multiple) else none
        else none).or
        ((if key = "placeholder" then q.placeholder.map Json.str else none).or
          (Members.lookup key [("visible", .bool q.visible), ("required", .bool q.required),
            ("depth", .ofNat q.depth), ("type", .str q.kind.label),
            ("description", .ofText? q.description), ("text", .str q.text),
            ("id", .str q.id)]))) := by
  unfold PreviewQuestion.toJson
  rw [Json.field?_object]
  simp only [List.reverse_append, Members.lookup_append, lookup_valueMembers_of_ne h,
    lookup_choiceMembers, lookup_optionalMember, List.append_assoc]
  rfl

/-- The members that every question has. -/
theorem field_toJson_of_fixed {key : String}
    (h : key ∉ ["current_value", "display_value", "options", "multiple", "placeholder"])
    (q : PreviewQuestion) :
    q.toJson.field key = (Members.lookup key [("visible", .bool q.visible),
      ("required", .bool q.required), ("depth", .ofNat q.depth), ("type", .str q.kind.label),
      ("description", .ofText? q.description), ("text", .str q.text),
      ("id", .str q.id)]).getD .null := by
  simp only [List.mem_cons, List.not_mem_nil, or_false, not_or] at h
  obtain ⟨hcurrent, hdisplay, hoptions, hmultiple, hplaceholder⟩ := h
  rw [Json.field_eq_getD, field?_toJson hcurrent, if_neg hdisplay, if_neg hoptions,
    if_neg hmultiple, ite_self, if_neg hplaceholder, Option.none_or, Option.none_or,
    Option.none_or]

theorem kindOfLabel_label (kind : QuestionKind) : kindOfLabel kind.label = kind := by
  cases kind <;> rfl

theorem text?_ofText? (text : Option String) : (Json.ofText? text).text? = text := by
  cases text <;> rfl

theorem optionOfJson?_passed (hf : Passage f) (o : PreviewOption) :
    optionOfJson? (f o.toJson) = some o := by
  have hid : o.toJson.field "id" = .str o.id := by
    unfold PreviewOption.toJson
    rw [Json.field_object]
    simp [Members.lookup]
  have htext : o.toJson.field "text" = .str o.text := by
    unfold PreviewOption.toJson
    rw [Json.field_object]
    simp [Members.lookup]
  unfold optionOfJson?
  simp only [hf.field, hf.text?, hid, htext]
  rfl

theorem filterMap_optionOfJson? (hf : Passage f) (options : List PreviewOption) :
    ((options.map (·.toJson)).map f).filterMap optionOfJson? = options := by
  rw [List.map_map, List.filterMap_map]
  refine (List.filterMap_congr fun o _ => ?_).trans List.filterMap_some
  exact optionOfJson?_passed hf o

theorem SheetQuestion.ofJson_passed (hf : Passage f) (q : PreviewQuestion) :
    SheetQuestion.ofJson (f q.toJson) = .ok (.ofPreview q) := by
  have hid : (q.toJson.field "id").text? = some q.id := by
    rw [field_toJson_of_fixed (by decide)]; simp [Members.lookup, Json.text?]
  have htext : (q.toJson.field "text").text? = some q.text := by
    rw [field_toJson_of_fixed (by decide)]; simp [Members.lookup, Json.text?]
  have hdescription : (q.toJson.field "description").text? = q.description := by
    rw [field_toJson_of_fixed (by decide)]; simp [Members.lookup, text?_ofText?]
  have hplaceholder : (q.toJson.field "placeholder").text? = q.placeholder := by
    rw [Json.field_eq_getD, field?_toJson (by decide)]
    cases q.placeholder <;> simp [Members.lookup, Json.text?]
  have hkind : (q.toJson.field "type").text? = some q.kind.label := by
    rw [field_toJson_of_fixed (by decide)]; simp [Members.lookup, Json.text?]
  have hdepth : f (q.toJson.field "depth") = .ofNat q.depth := by
    have hmember : ∀ depth : Json, (Members.lookup "depth" [("visible", .bool q.visible),
        ("required", .bool q.required), ("depth", depth), ("type", .str q.kind.label),
        ("description", .ofText? q.description), ("text", .str q.text),
        ("id", .str q.id)]).getD .null = depth := by simp [Members.lookup]
    rw [field_toJson_of_fixed (by decide), hmember, hf.ofNat]
  have hrequired : (q.toJson.field "required").bool? = some q.required := by
    rw [field_toJson_of_fixed (by decide)]; simp [Members.lookup, Json.bool?]
  have hvisible : (q.toJson.field "visible").bool? = some q.visible := by
    rw [field_toJson_of_fixed (by decide)]; simp [Members.lookup, Json.bool?]
  have hmultiple : (q.toJson.field "multiple").bool?.getD false =
      (decide (q.kind = .multipleChoice) && q.multiple) := by
    rw [Json.field_eq_getD, field?_toJson (by decide)]
    by_cases hq : q.kind = .multipleChoice <;> simp [Members.lookup, hq, Json.bool?]
  have hoptions : (((q.toJson.field "options").items?.map (·.map f)).getD []).filterMap
      optionOfJson? = if q.kind = .multipleChoice then q.options else [] := by
    rw [Json.field_eq_getD, field?_toJson (by decide)]
    by_cases hq : q.kind = .multipleChoice
    · rw [if_pos hq, if_pos hq]
      exact filterMap_optionOfJson? hf q.options
    · simp [Members.lookup, hq, Json.items?]
  have hvalue : ((q.toJson.field "display_value").text?.filter fun text => !text.isEmpty) =
      if q.currentValue.isSome && !q.displayValue.isEmpty then some q.displayValue else none := by
    rw [Json.field_eq_getD, field?_toJson (by decide)]
    cases q.currentValue <;> simp [Members.lookup, Json.text?, Option.filter]
  unfold SheetQuestion.ofJson
  simp only [hf.field, hf.text?, hf.bool?, hf.items?, hid, htext, hdescription, hplaceholder, hkind,
    hdepth, hrequired, hvisible, hmultiple, hoptions, hvalue, kindOfLabel_label, Option.getD_some]
  rfl

/-! ### Reading a form -/

theorem mapM_ofJson_passed (hf : Passage f) (questions : List PreviewQuestion) :
    ((questions.map (·.toJson)).map f).mapM SheetQuestion.ofJson =
      .ok (questions.map .ofPreview) := by
  induction questions with
  | nil => rfl
  | cons q questions ih =>
    rw [List.map_cons, List.map_cons, List.mapM_cons, SheetQuestion.ofJson_passed hf, ih]
    rfl

theorem ofLabel_label (status : PreviewStatus) : PreviewStatus.ofLabel status.label = status := by
  cases status <;> rfl

theorem progressOfJson?_passed (hf : Passage f) (progress : Progress) :
    progressOfJson? (f progress.toJson) =
      some ⟨recount progress.answered, recount progress.total⟩ := by
  have hfields : ∀ answered total : Json,
      (Json.object [("answered", answered), ("total", total)]).field "answered" = answered ∧
      (Json.object [("answered", answered), ("total", total)]).field "total" = total := by
    intro answered total
    constructor <;> rw [Json.field_object] <;> simp [Members.lookup]
  have hanswered := (hfields (.ofNat progress.answered) (.ofNat progress.total)).1
  have htotal := (hfields (.ofNat progress.answered) (.ofNat progress.total)).2
  have hobject : progress.toJson.isObject = true := rfl
  unfold progressOfJson?
  rw [hf.isObject, if_pos hobject, hf.field, hf.field]
  unfold Progress.toJson
  rw [hanswered, htotal, hf.ofNat, hf.ofNat]
  rfl

section Fields
variable (preview : Preview)

theorem field_toJson (key : String) :
    preview.toJson.field key = (Members.lookup key [("schema", preview.schema),
      ("questions", .arr (preview.questions.map (·.toJson))), ("help", .ofText? preview.help),
      ("progress", preview.progress.toJson), ("next_question_id", .ofText? preview.nextQuestionId),
      ("status", .str preview.status.label), ("form_title", .str preview.formTitle),
      ("form_id", .str preview.formId)]).getD .null := by
  unfold Preview.toJson
  rw [Json.field_object]
  rfl

/-- A preview reports no failure. -/
theorem reportedFailure?_passed (hf : Passage f) :
    Service.reportedFailure? (f preview.toJson) = none := by
  unfold Service.reportedFailure?
  rw [hf.field, hf.text?, field_toJson]
  simp [Members.lookup, Json.text?]

/-- **The sheet tells what the preview does**, whatever became of the answers on the way. -/
theorem Sheet.ofJson_passed (hf : Passage f) :
    Sheet.ofJson (f preview.toJson) = .ok (.ofPreview preview) := by
  have htitle : (preview.toJson.field "form_title").text? = some preview.formTitle := by
    rw [field_toJson]; simp [Members.lookup, Json.text?]
  have hhelp : (preview.toJson.field "help").text? = preview.help := by
    rw [field_toJson]; simp [Members.lookup, text?_ofText?]
  have hstatus : (preview.toJson.field "status").text? = some preview.status.label := by
    rw [field_toJson]; simp [Members.lookup, Json.text?]
  have hprogress : preview.toJson.field "progress" = preview.progress.toJson := by
    rw [field_toJson]; simp [Members.lookup]
  have hquestions : (preview.toJson.field "questions").items? =
      some (preview.questions.map (·.toJson)) := by
    rw [field_toJson]; simp [Members.lookup, Json.items?]
  unfold Sheet.ofJson
  simp only [hf.field, hf.text?, hf.items?, htitle, hhelp, hstatus, hprogress, hquestions,
    progressOfJson?_passed hf, Option.map_some, Option.getD_some, ofLabel_label, demand, bind,
    Except.bind, mapM_ofJson_passed hf]
  rfl

end Fields

end Questionnaire.Interview
