import Questionnaire.CommandLine.Load
import Questionnaire.Lint
import Questionnaire.Schema
import Questionnaire.Service.Functions

/-! # Commands that write no files

Which questions are visible, the preview, what is wrong with answers or with a form, and the
schemas. -/

namespace Questionnaire.CommandLine

variable {m : Type → Type} [Monad m] [Host m]

/-- A value is printed, indented. -/
def printJson (value : Json) : Task m Unit := printLine value.pretty

/-- The value of a response of the service. -/
def responseValue (response : String) : Except Failure Json :=
  (Service.readResponse response).mapError .response

/-- The text of a response of the service. -/
def responseText (response : String) : Except Failure String :=
  (Service.readTextResponse response).mapError .response

/-- A form and the text of answers to it, as the service takes them. -/
structure Request where
  form : Form
  answers : String

namespace Request

/-- The id of the form. -/
def formId (r : Request) : String := r.form.id.text

/-- The configuration with the form. -/
def config (r : Request) : String := Service.configText r.form

/-- The request with the form and answers at two paths. -/
def load (settings : Settings) (form : String) (answers : Option String) : Task m Request := do
  let form ← loadForm form
  return ⟨form, (← loadAnswers settings answers).toJson.compact⟩

/-- What the service says about visibility, of one question or of all. -/
def visibility (r : Request) : Option String → Service.Reply Json
  | some id => Service.questionVisible r.formId r.config id r.answers
  | none => Service.visibility r.formId r.config r.answers

end Request

/-- Visibility is printed. -/
def showVisibility (settings : Settings) (form : String) (answers question : Option String) :
    Task m Unit := do
  let r ← Request.load settings form answers
  printJson (← settle (responseValue (Service.respond (r.visibility question))))

/-- The ways in which a preview is printed. -/
inductive PreviewMode where
  | text
  | json
deriving DecidableEq, Repr

/-- The preview is printed. -/
def showPreview (settings : Settings) (form : String) (answers : Option String)
    (mode : PreviewMode) : Task m Unit := do
  let r ← Request.load settings form answers
  match mode with
  | .text =>
    let reply := Service.renderText r.formId r.config r.answers
    printLine (← settle (responseText (Service.respondText reply)))
  | .json =>
    let reply := Service.renderJson r.formId r.config r.answers
    printJson (← settle (responseValue (Service.respond reply)))

/-! ### Validation and lint -/

/-- The line of a problem. -/
def problemLine (e : ValidationError) : String :=
  "  /" ++ e.question.text ++ " - " ++ e.problem.message

/-- A line that lists names behind a heading, if there are any. -/
def listLine (heading : String) (names : List String) : List String :=
  if names.isEmpty then [] else [heading ++ ", ".intercalate names]

/-- The lines of a report. -/
def reportLines (report : ValidationReport) : List String :=
  ["Validation result: " ++ if report.valid then "valid" else "invalid"] ++
    (if report.errors.isEmpty then [] else "Errors:" :: report.errors.map problemLine) ++
    listLine "Missing required answers: " (report.missingRequired.map (·.text)) ++
    listLine "Unknown answer fields: " report.unknownFields

/-- The report on answers is printed, and the command fails if they are not valid. -/
def validateFiles (settings : Settings) (form answers : String) : Task m Unit := do
  let form ← loadForm form
  let report := form.validate (← loadAnswersAt settings answers)
  printLines (reportLines report)
  unless report.valid do throw .invalidAnswers

/-- The authoring faults of a form are printed, and the command fails if there are any. -/
def lintFile (form : String) : Task m Unit := do
  match (← loadForm form).lint with
  | [] => printLine "No issues found."
  | findings =>
    printLines (findings.map fun f => f.code ++ ": " ++ f.message)
    throw (.lintFindings findings.length)

/-! ### Schemas -/

/-- The schemas that can be asked for. -/
inductive SchemaKind where
  | form
  | config
  | answers
deriving DecidableEq, Repr

/-- The schema of a kind. -/
def schemaOf (settings : Settings) (form answers : Option String) : SchemaKind → Task m Json
  | .form => pure Schema.form
  | .config => pure Schema.exportConfig
  | .answers =>
    match form with
    | none => throw .formRequired
    | some path => do
      let form ← loadForm path
      let answers ← loadAnswers settings answers
      return form.answerSchema (form.effectiveVisibility answers)

/-- A schema is printed. -/
def showSchema (settings : Settings) (kind : SchemaKind) (form answers : Option String) :
    Task m Unit := do
  printJson (← schemaOf settings form answers kind)

end Questionnaire.CommandLine
