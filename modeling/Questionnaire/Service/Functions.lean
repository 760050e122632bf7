import Questionnaire.Document.Data
import Questionnaire.Lint
import Questionnaire.Preview.Render
import Questionnaire.Service.Config
import Questionnaire.Template.Render
import Questionnaire.Validation
import Questionnaire.Writer.Markdown

/-! # The functions of the service

What a host can ask about the form that it configures. Requests and answers are texts: `Reply.text`
writes the outcome of a function, errors as an object with the one member `error`. Answers are read
leniently, so that a text that cannot be read holds no answers; only `validateAnswers` and the
value of `submitPatch` insist on JSON. -/

namespace Questionnaire.Service

/-- The answers in a text. -/
def readAnswers (s : String) : Answers :=
  match Json.ofText s with
  | .ok value => Answers.ofJson value
  | .error _ => .empty

/-! ### Outcomes -/

/-- The outcome of a function of the service. -/
abbrev Reply (α : Type) := Except ServiceError α

/-- An error as text. -/
def errorText (e : ServiceError) : String := (Json.object [("error", .str e.message)]).compact

/-- The outcome of a function that answers a value, as text. -/
def respond : Reply Json → String
  | .ok value => value.compact
  | .error e => errorText e

/-- The outcome of a function that answers a text. -/
def respondText : Reply String → String
  | .ok s => s
  | .error e => errorText e

/-! ### The form itself -/

/-- The form. -/
def describe (formId config : String) : Reply Json := do
  return (← loadForm formId config).toJson.sorted

/-- The authoring faults of the form. -/
def lintForm (formId config : String) : Reply Json := do
  return .arr ((← loadForm formId config).lint.map (·.toJson))

/-! ### Visibility and validation -/

/-- The decision of each question's own rules. -/
def visibility (formId config answers : String) : Reply Json := do
  return ((← loadForm formId config).ownVisibility (readAnswers answers)).toJson

/-- The question with an id. -/
def findQuestion (form : Form) (id : String) : Reply Question :=
  match form.question? ⟨id⟩ with
  | some q => .ok q
  | none => .error (.questionNotFound id)

/-- The decision of the rules of one question. -/
def questionVisible (formId config questionId answers : String) : Reply Json := do
  let form ← loadForm formId config
  let q ← findQuestion form questionId
  return .object [("question_id", q.id.toJson),
    ("visible", .bool (isVisible q form.rules (readAnswers answers)))]

/-- The schema of the answers. -/
def answerSchema (formId config answers : String) : Reply Json := do
  let form ← loadForm formId config
  return form.answerSchema (form.effectiveVisibility (readAnswers answers))

/-- What is wrong with answers. -/
def validateAnswers (formId config answers : String) : Reply Json := do
  let form ← loadForm formId config
  let value ← (Json.ofText answers).mapError .answers
  return (form.validate (Answers.ofJson value)).toJson

/-! ### Preview -/

/-- The preview. -/
def preview (formId config answers : String) : Reply Preview := do
  return (← loadForm formId config).preview (readAnswers answers)

/-- Where a respondent stands, as members of an object. -/
def standing (status : String) (p : Preview) : List (String × Json) :=
  [("status", .str status), ("next_question_id", .ofText? p.nextQuestionId),
    ("progress", p.progress.toJson)]

/-- Where a respondent stands. -/
def next (formId config answers : String) : Reply Json := do
  let p ← preview formId config answers
  return .object (standing p.status.label p)

/-- The preview as lines of text. -/
def renderText (formId config answers : String) : Reply String := do
  return (← preview formId config answers).text

/-- The preview as an object. -/
def renderJson (formId config answers : String) : Reply Json := do
  return (← preview formId config answers).toJson

/-! ### Documents -/

/-- The compiled document. -/
def compile (formId config answers : String) : Reply Json := do
  return ((← loadForm formId config).compile (readAnswers answers)).toJson.sorted

/-- The document as Markdown. -/
def renderMarkdown (formId config answers : String) : Reply String := do
  let settings := (← Config.ofText config).settings
  let form ← loadForm formId config
  return (form.compile (readAnswers answers)).markdown settings.style settings.footerImage

/-- The name of the document's file. -/
def outputFilename (formId config : String) : Reply Json := do
  let settings := (← Config.ofText config).settings
  let form ← loadForm formId config
  match Template.outputFilename? settings.filenameTemplate form with
  | some name => return .object [("filename", .str name)]
  | none => .error .template

/-! ### Answering -/

/-- What a host is told after an answer: where the respondent stands, all answers, and what is wrong
with them. -/
def patchReport (form : Form) (answers : Answers) : Json :=
  let report := form.validate answers
  let p := form.preview answers
  let status := if report.errors.isEmpty then p.status.label else "error"
  .object (standing status p ++ [("answers", answers.toJson), ("validation", report.toJson)])

/-- One more answer, and where the respondent stands with it. -/
def submitPatch (formId config answers questionId value : String) : Reply Json := do
  let form ← loadForm formId config
  let _ ← findQuestion form questionId
  let value ← (Json.ofText value).mapError .answerValue
  return patchReport form ((readAnswers answers).insert ⟨questionId⟩ value)

end Questionnaire.Service
