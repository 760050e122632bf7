import Questionnaire.Form.Basic

/-! # Writing forms

A form as a JSON value with its members in the order of the records. Texts that are not set and
empty lists of options and rules are left out; the references of a rule are written as null when
they are not set. -/

namespace Questionnaire

/-- A member that is left out when there is no value. -/
def optionalMember (key : String) (text : Option String) : List (String × Json) :=
  match text with
  | some s => [(key, .str s)]
  | none => []

namespace ItemId

/-- An id as a string. -/
def toJson (id : ItemId) : Json := .str id.text

/-- An id, or null for none. -/
def nullableToJson (id : Option ItemId) : Json := (id.map toJson).getD .null

end ItemId

/-- The number of an order index. -/
def orderToJson (n : Int64) : Json := ((Number.ofInt? n.toInt).map .num).getD .null

/-- The word for an action. -/
def RuleAction.label : RuleAction → String
  | .makeVisible => "SHOW"
  | .makeHidden => "HIDE"
  | .unknown => "UNKNOWN"

/-- A choice as an object. -/
def Choice.toJson (c : Choice) : Json :=
  .obj ([("id", c.id.toJson), ("text", .str c.text)] ++ optionalMember "value" c.value ++
    [("orderIndex", orderToJson c.orderIndex)])

/-- A question as an object. -/
def Question.toJson (q : Question) : Json :=
  .obj ([("id", q.id.toJson), ("text", .str q.text), ("type", .str q.kind.label)] ++
    optionalMember "parentId" (q.parentId.map (·.text)) ++
    [("orderIndex", orderToJson q.orderIndex), ("required", .bool q.required),
      ("allowMultipleAnswers", .bool q.allowMultiple)] ++
    optionalMember "description" q.description ++ optionalMember "placeholder" q.placeholder ++
    if q.options.isEmpty then [] else [("options", .arr (q.options.map Choice.toJson))])

/-- A rule as an object. -/
def Rule.toJson (r : Rule) : Json :=
  .obj [("id", r.id.toJson), ("targetQuestionId", ItemId.nullableToJson r.target),
    ("triggerQuestionId", ItemId.nullableToJson r.trigger),
    ("triggerOptionId", ItemId.nullableToJson r.option), ("action", .str r.action.label)]

/-- A form as an object. -/
def Form.toJson (f : Form) : Json :=
  .obj ([("id", f.id.toJson), ("title", .str f.title)] ++
    optionalMember "description" f.description ++
    [("questions", .arr (f.questions.map Question.toJson))] ++
    if f.rules.isEmpty then [] else [("rules", .arr (f.rules.map Rule.toJson))])

end Questionnaire
