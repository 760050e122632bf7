import Questionnaire.Preview.Basic

/-! # Showing the preview

The preview as a JSON object for a user interface (`Preview.toJson`) and as lines of text
(`Preview.text`). -/

namespace Questionnaire

/-! ### As an object -/

/-- An option as an object. -/
def PreviewOption.toJson (o : PreviewOption) : Json :=
  .object [("id", .str o.id), ("text", .str o.text)]

/-- Progress as an object. -/
def Progress.toJson (p : Progress) : Json :=
  .object [("answered", .ofNat p.answered), ("total", .ofNat p.total)]

namespace PreviewQuestion

/-- What is shown of choices alone. -/
def choiceMembers (q : PreviewQuestion) : List (String × Json) :=
  if q.kind = .multipleChoice then
    [("multiple", .bool q.multiple), ("options", .arr (q.options.map (·.toJson)))]
  else []

/-- What is shown of an answer, a blank one too. -/
def valueMembers (q : PreviewQuestion) : List (String × Json) :=
  match q.currentValue with
  | some value => [("current_value", value), ("display_value", .str q.displayValue)]
  | none => []

/-- A question as an object. -/
def toJson (q : PreviewQuestion) : Json :=
  .object ([("id", .str q.id), ("text", .str q.text), ("description", .ofText? q.description),
    ("type", .str q.kind.label), ("depth", .ofNat q.depth), ("required", .bool q.required),
    ("visible", .bool q.visible)] ++
    optionalMember "placeholder" q.placeholder ++ q.choiceMembers ++ q.valueMembers)

end PreviewQuestion

/-- A preview as an object. -/
def Preview.toJson (preview : Preview) : Json :=
  .object [
    ("form_id", .str preview.formId),
    ("form_title", .str preview.formTitle),
    ("status", .str preview.status.label),
    ("next_question_id", .ofText? preview.nextQuestionId),
    ("progress", preview.progress.toJson),
    ("help", .ofText? preview.help),
    ("questions", .arr (preview.questions.map (·.toJson))),
    ("schema", preview.schema)]

/-! ### As text -/

/-- The indentation of a depth. -/
def indentText (depth : Nat) : String := String.ofList (List.replicate (2 * depth) ' ')

/-- A status line with the counts of answered and of all questions. -/
def statusLine (status : PreviewStatus) (progress : Progress) : String :=
  "Status: " ++ status.label ++ " (" ++ toString progress.answered ++ "/" ++
    toString progress.total ++ ")"

/-- The line of a section. -/
def sectionLine (depth : Nat) (text : String) : String := indentText depth ++ " # " ++ text

/-- The line of a question without what is known of its answer. -/
def questionLine (depth : Nat) (id text : String) : String :=
  indentText depth ++ " - " ++ id ++ " (" ++ text ++ ")"

namespace PreviewQuestion

/-- The line of a question or section. -/
def line (q : PreviewQuestion) : String :=
  if q.isLeaf then
    questionLine q.depth q.id q.text ++ (if q.required then " [required]" else "") ++
      if q.isAnswered then " = " ++ q.displayValue else ""
  else sectionLine q.depth q.text

end PreviewQuestion

namespace Preview

/-- The lines about the next question. -/
def nextLines (preview : Preview) : List String :=
  match preview.nextQuestionId with
  | none => ["All visible required questions are answered."]
  | some id =>
    ("Next question: " ++ id) ::
      match preview.question? id with
      | none => []
      | some q =>
        ("  Text: " ++ q.text) ::
          (q.description.map fun text => "  Description: " ++ text).toList

/-- A preview as lines of text. -/
def lines (preview : Preview) : List String :=
  ["Form: " ++ preview.formTitle ++ " (" ++ preview.formId ++ ")",
    statusLine preview.status preview.progress] ++
    (preview.help.map fun text => "Help: " ++ text).toList ++
    preview.nextLines ++ ["Visible questions:"] ++ preview.visible.map (·.line)

/-- A preview as text. -/
def text (preview : Preview) : String := "\n".intercalate preview.lines

end Preview

end Questionnaire
