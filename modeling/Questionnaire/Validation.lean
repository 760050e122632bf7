import Questionnaire.Form.Encode
import Questionnaire.Number.Typed
import Questionnaire.Text.Blank
import Questionnaire.Text.Digit
import Questionnaire.Visibility.Map

/-! # Validation

Answers are checked for the questions that a respondent sees; hidden questions are neither required
nor checked. `Question.check` looks at an answer that is not blank: choices have to be options of
the question, numbers numbers or texts that write one, dates texts of the form `YYYY-MM-DD`.
`Form.validate` collects the problems, the required questions without an answer, and the answers to
no question of the form. -/

namespace Questionnaire

/-- What is wrong with an answer. -/
inductive Problem where
  | typeMismatch
  | severalOptions
  | unknownOption (key : String)
  | notANumber
  | notADate
deriving DecidableEq, Repr

namespace Problem

/-- The wording of a problem. -/
def message : Problem → String
  | .typeMismatch => "type mismatch"
  | .severalOptions => "only one option may be selected"
  | .unknownOption key => "'" ++ key ++ "' is not an option of this question"
  | .notANumber => "not a number"
  | .notADate => "date must be formatted as YYYY-MM-DD"

/-- The code of a problem. -/
def code : Problem → String
  | .typeMismatch => "type_mismatch"
  | .severalOptions => "multiple_not_allowed"
  | .unknownOption _ => "unknown_option"
  | .notANumber => "invalid_number"
  | .notADate => "invalid_date"

end Problem

/-! ### Checking one answer -/

/-- Four digits, two digits and two digits, with hyphens between them. -/
def isDateText : List Char → Bool
  | [a, b, c, d, '-', e, f, '-', g, h] => [a, b, c, d, e, f, g, h].all Text.isDigit
  | _ => false

namespace Question

/-- An option of the question has this id. -/
def offers (q : Question) (key : String) : Bool := q.options.any fun c => c.id.text == key

/-- The problem with one selected value; null selects nothing. -/
def checkSelected (q : Question) (value : Json) : Option Problem :=
  match value with
  | .arr _ | .obj _ => some .typeMismatch
  | value =>
    match value.key? with
    | none => none
    | some key => if q.offers key then none else some (.unknownOption key)

/-- The first problem with a selection. -/
def checkChoice (q : Question) (value : Json) : Option Problem :=
  match value with
  | .arr items =>
    if items.length > 1 ∧ !q.allowMultiple then some .severalOptions
    else items.findSome? q.checkSelected
  | value => q.checkSelected value

/-- The first problem with an answer that is not blank. -/
def check (q : Question) (value : Json) : Option Problem :=
  match q.kind, value with
  | .multipleChoice, value => q.checkChoice value
  | .number, .num _ => none
  | .number, .str s => if (Number.readReal? (Text.trim s)).isSome then none else some .notANumber
  | .number, _ => some .typeMismatch
  | .date, .str s => if isDateText s.toList then none else some .notADate
  | .date, _ => some .typeMismatch
  | .freeText, .str _ | .freeText, .num _ => none
  | .freeText, _ => some .typeMismatch
  | .heading, _ => none

end Question

/-! ### Checking all answers -/

/-- A problem with the answer to a question. -/
structure ValidationError where
  question : ItemId
  problem : Problem
deriving DecidableEq, Repr

/-- What is wrong with a set of answers. -/
structure ValidationReport where
  errors : List ValidationError
  missingRequired : List ItemId
  unknownFields : List String
deriving DecidableEq, Repr

namespace ValidationReport

/-- Nothing is wrong. -/
def valid (report : ValidationReport) : Bool :=
  report.errors.isEmpty && report.missingRequired.isEmpty && report.unknownFields.isEmpty

end ValidationReport

namespace Form

/-- The questions that a respondent sees and can answer, in the order of the form. -/
def visibleLeaves (form : Form) (visibility : VisibilityMap) : List Question :=
  form.questions.filter fun q => !q.isSection && visibility[q.id.text]?.getD false

/-- The problem with the answer to a question, if there is an answer. -/
def errorOf (answers : Answers) (q : Question) : Option ValidationError := do
  let value ← answers.given? q.id
  let problem ← q.check value
  return ⟨q.id, problem⟩

/-- A question of the form has this id. -/
def hasQuestion (form : Form) (id : String) : Bool := form.questions.any fun q => q.id.text == id

/-- What is wrong with answers to a form. -/
def validate (form : Form) (answers : Answers) : ValidationReport :=
  let leaves := form.visibleLeaves (form.effectiveVisibility answers)
  { errors := leaves.filterMap (errorOf answers)
    missingRequired :=
      (leaves.filter fun q => q.required && !answers.isAnswered q.id).map (·.id)
    unknownFields := answers.keys.filter fun key => !form.hasQuestion key }

end Form

/-! ### Writing -/

/-- A problem with an answer as an object. -/
def ValidationError.toJson (e : ValidationError) : Json :=
  .object [("question_id", e.question.toJson), ("path", .str ("/" ++ e.question.text)),
    ("message", .str e.problem.message), ("code", .str e.problem.code)]

/-- A report as an object. -/
def ValidationReport.toJson (report : ValidationReport) : Json :=
  .object [("valid", .bool report.valid), ("errors", .arr (report.errors.map (·.toJson))),
    ("missing_required", .arr (report.missingRequired.map ItemId.toJson)),
    ("unknown_fields", .arr (report.unknownFields.map .str))]

end Questionnaire
