import Questionnaire.Form.Encode
import Questionnaire.Number.Typed
import Questionnaire.Visibility.Map

/-! # The schema of the answers

A JSON schema for the answers to the questions that a respondent can see. A choice is one of the
option ids, and where an id writes an integer the integer too; several choices are a list without
repetitions. Ids that the visibility map does not name count as visible. -/

namespace Questionnaire

/-- The pattern of numbers that are given as text. -/
def numericPattern : String := "^-?\\d+(\\.\\d+)?$"

namespace Question

/-- The values that name an option. -/
def choiceValues (c : Choice) : List Json :=
  .str c.id.text ::
    ((Number.readInt64? c.id.text).bind Number.ofInt?).toList.map .num

/-- The values that name the options of a question, in order. -/
def optionValues (q : Question) : Json := .arr (q.orderedOptions.flatMap choiceValues)

/-- What the schema says about the value of an answer. -/
def valueSchema (q : Question) : List (String × Json) :=
  match q.kind with
  | .multipleChoice =>
    if q.allowMultiple then
      [("type", .str "array"), ("items", .object [("enum", q.optionValues)]),
        ("uniqueItems", .bool true)]
    else [("enum", q.optionValues)]
  | .number => [("type", .arr [.str "number", .str "string"]), ("pattern", .str numericPattern)]
  | .date => [("type", .str "string"), ("format", .str "date")]
  | .freeText | .heading => [("type", .str "string")]

/-- The schema of the answer to a question. -/
def answerSchema (q : Question) : Json :=
  .object (q.valueSchema ++ [("title", .str q.text)] ++ optionalMember "description" q.description)

end Question

namespace Form

/-- The questions whose answers the schema describes. -/
def schemaQuestions (form : Form) (visibility : VisibilityMap) : List Question :=
  form.questions.filter fun q => !q.isSection && visibility[q.id.text]?.getD true

/-- The schema of the answers to a form. -/
def answerSchema (form : Form) (visibility : VisibilityMap) : Json :=
  let questions := form.schemaQuestions visibility
  .object [
    ("$schema", .str "https://json-schema.org/draft/2020-12/schema"),
    ("title", .str form.title),
    ("type", .str "object"),
    ("properties", .object (questions.map fun q => (q.id.text, q.answerSchema))),
    ("required", .arr ((questions.filter (·.required)).map fun q => q.id.toJson)),
    ("additionalProperties", .bool false)]

end Form

end Questionnaire
