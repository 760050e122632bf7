import Questionnaire.Cbor.Reader
import Questionnaire.CommandLine.Host
import Questionnaire.Service.Config

/-! # Reading input files

A form is read as CBOR if its path says so and as JSON otherwise. Answers that are JSON but no
object are no answers, which is worth a warning. A footer image that is not there is left out, with
a warning too. -/

namespace Questionnaire.CommandLine

/-! ### Contents -/

/-- The text of a file. -/
def textOf (contents : ByteArray) : Except Failure String :=
  match String.fromUTF8? contents with
  | some text => .ok text
  | none => .error .notText

/-- The form of a file. -/
def formOf (path : String) (contents : ByteArray) : Except Failure Form :=
  if Path.hasExtension "cbor" path then
    match Form.ofCbor? contents.data.toList with
    | some form => .ok form
    | none => .error .formNotCbor
  else do (Form.ofText (← textOf contents)).mapError .form

/-- The JSON value of a file of answers. -/
def answersValueOf (contents : ByteArray) : Except Failure Json := do
  match Json.ofText (← textOf contents) with
  | .ok value => .ok value
  | .error _ => .error .answersNotJson

/-- The export settings of a file. -/
def exportConfigOf (contents : ByteArray) : Except Failure ExportConfig := do
  (ExportConfig.ofText (← textOf contents)).mapError .config

/-! ### Files -/

variable {m : Type → Type} [Monad m] [Host m]

/-- The form at a path. -/
def loadForm (path : String) : Task m Form := do
  settle (formOf path (← onFiles (Host.readFile path)))

/-- The answers at a path. -/
def loadAnswersAt (settings : Settings) (path : String) : Task m Answers := do
  let value ← settle (answersValueOf (← onFiles (Host.readFile path)))
  unless value.isObject do
    warnOf settings "answers file is not a JSON object; treating it as empty" path
  return Answers.ofJson value

/-- The answers at a path, none without a path. -/
def loadAnswers (settings : Settings) : Option String → Task m Answers
  | none => pure .empty
  | some path => loadAnswersAt settings path

/-- The export settings, the standard ones without a path. -/
def loadConfig (settings : Settings) : Task m ExportConfig :=
  match settings.configPath with
  | none => pure .standard
  | some path => do settle (exportConfigOf (← onFiles (Host.readFile path)))

/-- The footer image, if its file is there. -/
def usableFooter (settings : Settings) (config : ExportConfig) : Task m (Option FooterImage) :=
  match config.footerImage with
  | none => pure none
  | some image => do
    if ← ExceptT.lift (Host.isFile image.path) then return some image
    warnOf settings "footer image not found; writing the document without it" image.path
    return none

end Questionnaire.CommandLine
