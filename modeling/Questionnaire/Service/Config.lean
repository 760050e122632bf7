import Questionnaire.Export
import Questionnaire.Form.Decode
import Questionnaire.Form.Encode
import Questionnaire.Json.Printer
import Questionnaire.Service.Bundled

/-! # Configuration of the service

A host configures the service by a JSON text that holds the form, itself as a JSON text, and the
export settings. Both may be left out, and a blank text leaves out everything. `loadForm` gives the
form if it is the one that is asked for, and `configText` is the configuration for a form. -/

namespace Questionnaire.Service

open Decode

/-- Why the service cannot answer. -/
inductive ServiceError where
  | config (reason : Refusal)
  | form (reason : Refusal)
  | answers (reason : Refusal)
  | answerValue (reason : Refusal)
  | formUnavailable (id : String)
  | questionNotFound (id : String)
  | template
deriving DecidableEq

namespace ServiceError

/-- The wording of an error. -/
def message : ServiceError → String
  | .config reason => "failed to parse config/" ++ reason.message
  | .form reason => "failed to parse form snapshot: " ++ reason.message
  | .answers reason => "failed to parse answers: " ++ reason.message
  | .answerValue reason => "failed to parse answer value: " ++ reason.message
  | .formUnavailable id => "form '" ++ id ++ "' is not available"
  | .questionNotFound id => "question '" ++ id ++ "' not found"
  | .template => "template error: <template>"

end ServiceError

/-- The configuration of the service. -/
structure Config where
  formText : Option String
  exportConfig : Option ExportConfig

/-- The configuration in which everything is left out. -/
def Config.empty : Config := ⟨none, none⟩

/-- The record of a configuration. -/
def Config.shape : Shape (Filling Config) Config :=
  .filling "ComponentConfig" .empty [
    .update "form_spec_json" (nullable string) fun c x => { c with formText := x },
    .update "export" (nullable ExportConfig.decode) fun c x => { c with exportConfig := x }]

/-- The configuration that a text writes. -/
def Config.ofText (s : String) : Except ServiceError Config :=
  if Text.isAllBlank s then .ok .empty
  else (Decode.ofText Config.shape.decode s).mapError .config

/-- The form of a configuration. -/
def Config.form (config : Config) : Except ServiceError Form :=
  match config.formText with
  | none => .ok bundledForm
  | some s => (Form.ofText s).mapError .form

/-- The export settings of a configuration. -/
def Config.settings (config : Config) : ExportConfig := config.exportConfig.getD .standard

/-- The form of a configuration text, if it has the id that is asked for. -/
def loadForm (formId configText : String) : Except ServiceError Form := do
  let form ← (← Config.ofText configText).form
  if form.id.text = formId then return form else .error (.formUnavailable formId)

/-- A configuration text for a form. -/
def configText (form : Form) : String :=
  (Json.object [("form_spec_json", .str form.toJson.compact)]).compact

end Questionnaire.Service
