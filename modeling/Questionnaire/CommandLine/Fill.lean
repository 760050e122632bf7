import Questionnaire.CommandLine.Produce

/-! # Filling in

An interview about a form, from answers given before or from none, and the document of its
outcome. -/

namespace Questionnaire.CommandLine

variable {m : Type → Type} [Monad m] [Host m]

/-- The setting of an interview about a form. -/
def interviewSetting (settings : Settings) (form : Form) : Interview.Setting :=
  ⟨form.id.text, Service.configText form, settings.verbose⟩

/-- An interview is held, from its heading to its last reply. -/
def interview (settings : Settings) (form : Form) (answers : Answers) :
    Task m Interview.Session := do
  let setting := interviewSetting settings form
  let session ← settle ((setting.session answers.toJson []).mapError .ofFault)
  printLines session.sheet.headerLines
  settle ((← ExceptT.lift (Host.converse session)).mapError .ofFault)

/-- An interview is held and its document written. -/
def fillIn (settings : Settings) (form : String) (answers : Option String)
    (destination : Destination) (printsAnswers : Bool) : Task m Unit := do
  let form ← loadForm form
  let config ← loadConfig settings
  let session ← interview settings form (← loadAnswers settings answers)
  let document := form.compile (Answers.ofJson session.answers)
  let footer ← usableFooter settings config
  let contents := destination.format.contents document config footer
  let path ← writeNamed settings destination config form contents
  printLine ("Done. Document written to " ++ path)
  if printsAnswers then printLine session.answers.pretty

end Questionnaire.CommandLine
