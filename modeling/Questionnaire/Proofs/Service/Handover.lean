import Questionnaire.CommandLine.World
import Questionnaire.Proofs.Visibility.Policy
import Questionnaire.Proofs.Form.Reread

/-! # Forms that are handed to the service

The commands that only look at a form hand it to the service, as text inside the text of a
configuration, and the commands that write documents work on the form itself. Since every form comes
back from its configuration, both kinds work on the form that was read from the path
(`commands_share_form`): a command for a form and answers is one task after these are loaded
(`withFiles`), and in the task the service can be left out (`Request.visibility_eq`,
`Request.preview_eq`). -/

namespace Questionnaire.CommandLine

open Service (readAnswers)

/-! ### Requests -/

/-- What is said about visibility in a form, of one question or of all. -/
def visibilityIn (form : Form) (answers : Answers) : Option String → Service.Reply Json
  | some id => (Service.findQuestion form id).map fun q =>
    .object [("question_id", q.id.toJson), ("visible", .bool (isVisible q form.rules answers))]
  | none => .ok (form.ownVisibility answers).toJson

namespace Request

variable (r : Request)

/-- **The service has the form of the request.** -/
theorem loadForm_config : Service.loadForm r.formId r.config = .ok r.form :=
  Service.loadForm_configText r.form

theorem visibility_eq (question : Option String) :
    r.visibility question = visibilityIn r.form (readAnswers r.answers) question := by
  cases question with
  | none => exact Service.visibility_eq r.loadForm_config
  | some id => exact Service.questionVisible_eq r.loadForm_config

theorem preview_eq : Service.preview r.formId r.config r.answers =
    .ok (r.form.preview (readAnswers r.answers)) :=
  Service.preview_eq r.loadForm_config

theorem renderText_eq : Service.renderText r.formId r.config r.answers =
    .ok (r.form.preview (readAnswers r.answers)).text :=
  Service.renderText_eq r.loadForm_config

theorem renderJson_eq : Service.renderJson r.formId r.config r.answers =
    .ok (r.form.preview (readAnswers r.answers)).toJson :=
  Service.renderJson_eq r.loadForm_config

end Request

/-! ### Commands -/

section Commands
variable {m : Type → Type} [Monad m] [Host m]

/-- A task about the form and the answers at two paths. -/
def withFiles (settings : Settings) (form : String) (answers : Option String)
    (task : Form → Answers → Task m Unit) : Task m Unit := do
  let form ← loadForm form
  task form (← loadAnswers settings answers)

/-- The value that the service replies is printed. -/
def printReply (reply : Service.Reply Json) : Task m Unit := do
  printJson (← settle (responseValue (Service.respond reply)))

/-- A preview is printed. -/
def printPreview (preview : Preview) : PreviewMode → Task m Unit
  | .text => do printLine (← settle (responseText (Service.respondText (.ok preview.text))))
  | .json => printReply (.ok preview.toJson)

/-- A document is printed or written. -/
def deliver (settings : Settings) (destination : Destination) (prints : Bool) (form : Form)
    (document : Document) : Task m Unit := do
  let config ← loadConfig settings
  let footer ← usableFooter settings config
  let contents := destination.format.contents document config footer
  if prints then
    tell (.printed contents)
  else
    printLine ("Wrote " ++ (← writeNamed settings destination config form contents))

variable [LawfulMonad m]

theorem load_bind (settings : Settings) (form : String) (answers : Option String)
    (task : Request → Task m Unit) :
    Request.load settings form answers >>= task =
      withFiles settings form answers fun form given => task ⟨form, given.toJson.compact⟩ := by
  simp only [Request.load, withFiles, bind_assoc, pure_bind]

theorem showVisibility_eq (settings : Settings) (form : String) (answers question : Option String) :
    showVisibility (m := m) settings form answers question =
      withFiles settings form answers fun form given =>
        printReply (visibilityIn form (readAnswers given.toJson.compact) question) := by
  have hshow : showVisibility (m := m) settings form answers question =
      Request.load settings form answers >>= fun r => printReply (r.visibility question) := rfl
  rw [hshow, load_bind]
  simp only [Request.visibility_eq]

theorem showPreview_eq (settings : Settings) (form : String) (answers : Option String)
    (mode : PreviewMode) :
    showPreview (m := m) settings form answers mode =
      withFiles settings form answers fun form given =>
        printPreview (form.preview (readAnswers given.toJson.compact)) mode := by
  have hshow : showPreview (m := m) settings form answers mode =
      Request.load settings form answers >>= fun r =>
        printPreview (r.form.preview (readAnswers r.answers)) mode := by
    refine congrArg (Request.load settings form answers >>= ·) (funext fun r => ?_)
    cases mode
    · rw [r.renderText_eq]
      rfl
    · rw [r.renderJson_eq]
      rfl
  rw [hshow, load_bind]

end Commands

/-- **The service is handed exactly the form that was loaded**, whatever its texts hold and whichever
of its references are set. So the commands that ask the service and the command that compiles a
document work on one form, the one at the path. -/
theorem commands_share_form :
    (∀ form : Form, Service.loadForm form.id.text (Service.configText form) = .ok form) ∧
    ∀ (settings : Settings) (form answers : String),
      (∀ question, showVisibility (m := StateM World) settings form (some answers) question =
        withFiles settings form (some answers) fun form given =>
          printReply (visibilityIn form (readAnswers given.toJson.compact) question)) ∧
      (∀ mode, showPreview (m := StateM World) settings form (some answers) mode =
        withFiles settings form (some answers) fun form given =>
          printPreview (form.preview (readAnswers given.toJson.compact)) mode) ∧
      ∀ destination prints,
        compileFiles (m := StateM World) settings form answers destination prints =
          withFiles settings form (some answers) fun form given =>
            deliver settings destination prints form (form.compile given) :=
  ⟨fun form => Service.loadForm_configText form, fun settings form answers =>
    ⟨showVisibility_eq settings form (some answers), showPreview_eq settings form (some answers),
      fun _ _ => rfl⟩⟩

end Questionnaire.CommandLine
