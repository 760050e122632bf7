import Questionnaire.CommandLine.Load
import Questionnaire.CommandLine.Naming
import Questionnaire.Glob.Match

/-! # Commands that write documents

A document is written into a folder that is made if need be, and never over a file unless that is
asked for (`writeDocument`). A batch does one task for each file of answers, `Batch.compileFile`,
and a task that fails does not keep the others from being done. -/

namespace Questionnaire.CommandLine

variable {m : Type → Type} [Monad m] [Host m]

/-! ### Documents -/

/-- The folder for documents. -/
def outputFolder (settings : Settings) (chosen : Option String) : Except Failure String :=
  let folder := (chosen.or settings.outputFolder).getD "."
  if folder.isEmpty then .error .noOutputFolder else .ok folder

/-- A document is written, and its path is the result. -/
def writeDocument (folder name contents : String) (force : Bool) : Task m String := do
  onFiles (Host.makeFolders folder)
  let path := Path.join folder name
  if (← ExceptT.lift (Host.isTaken path)) && !force then throw (.documentExists path)
  onFiles (Host.writeFile path contents)
  return path

/-- The name of a form's document. -/
def documentName (format : OutputFormat) (config : ExportConfig) (form : Form) :
    Except Failure String :=
  match documentName? format config.filenameTemplate form with
  | some name => .ok name
  | none => .error .template

/-- Where and how a document is written. -/
structure Destination where
  folder : Option String
  format : OutputFormat
  force : Bool
deriving DecidableEq, Repr

/-- A form's document is written by its template. -/
def writeNamed (settings : Settings) (destination : Destination) (config : ExportConfig)
    (form : Form) (contents : String) : Task m String := do
  let folder ← settle (outputFolder settings destination.folder)
  let name ← settle (documentName destination.format config form)
  writeDocument folder name contents destination.force

/-- Answers are compiled into a document, which is printed or written. -/
def compileFiles (settings : Settings) (form answers : String) (destination : Destination)
    (prints : Bool) : Task m Unit := do
  let form ← loadForm form
  let answers ← loadAnswersAt settings answers
  let config ← loadConfig settings
  let footer ← usableFooter settings config
  let contents := destination.format.contents (form.compile answers) config footer
  if prints then
    tell (.printed contents)
  else
    printLine ("Wrote " ++ (← writeNamed settings destination config form contents))

/-! ### Batches -/

/-- What the tasks of a batch share. -/
structure Batch where
  settings : Settings
  form : Form
  config : ExportConfig
  footer : Option FooterImage
  folder : String
  format : OutputFormat
  force : Bool

/-- A file of answers and the path of its document, or why there is none. -/
abbrev BatchResult : Type := String × Except Failure String

namespace Batch

/-- The contents of the document for some answers. -/
def contents (batch : Batch) (answers : Answers) : String :=
  batch.format.contents (batch.form.compile answers) batch.config batch.footer

/-- The name of the document for a file of answers. -/
def nameFor (batch : Batch) (input : String) : String :=
  batch.format.batchFileName ((Path.stem? input).getD "")

/-- One file of answers is compiled into a document, whose path is the result. -/
def compileFile (batch : Batch) (input : String) : Task m String := do
  let answers ← loadAnswersAt batch.settings input
  writeDocument batch.folder (batch.nameFor input) (batch.contents answers) batch.force

/-- Files of answers are compiled one after another. -/
def compileEach (batch : Batch) : List String → m (List BatchResult)
  | [] => pure []
  | input :: inputs => do
    let result ← (batch.compileFile input).run
    return (input, result) :: (← batch.compileEach inputs)

end Batch

/-- What is told about a file of answers. -/
def resultOutput : BatchResult → Output
  | (input, .ok path) => .line (input ++ " -> " ++ path)
  | (input, .error failure) => .complained (input ++ ": " ++ failure.message)

/-- What is told about the files of answers is told in order. -/
def tellResults : List BatchResult → Task m Unit
  | [] => pure ()
  | result :: rest => do
    tell (resultOutput result)
    tellResults rest

/-- The task has failed. -/
def hasFailed (result : BatchResult) : Bool :=
  match result.2 with
  | .ok _ => false
  | .error _ => true

/-- Those of some paths that do not lead to the file of the form. -/
def withoutForm (form : String) : List String → m (List String)
  | [] => pure []
  | path :: paths => do
    let same ← Host.isSame path form
    let others ← withoutForm form paths
    return if same then others else path :: others

/-- The files of answers in a folder, in the order of their names. -/
def answersFiles (folder form : String) (pattern : List GlobToken) : Task m (List String) := do
  let names ← onFiles (Host.fileNames folder)
  let matching := names.filter (Glob.isMatch pattern)
  let sorted := matching.mergeSort fun a b => decide (a ≤ b)
  ExceptT.lift (withoutForm form (sorted.map (Path.join folder)))

/-- All files of answers in a folder are compiled. -/
def compileFolder (settings : Settings) (form folder pattern : String)
    (destination : Destination) : Task m Unit := do
  let parsed ← loadForm form
  let config ← loadConfig settings
  let tokens ← settle ((Glob.ofText pattern).mapError .glob)
  let inputs ← answersFiles folder form tokens
  if inputs.isEmpty then throw (.noAnswersFiles folder pattern)
  let root ← settle (outputFolder settings destination.folder)
  let footer ← usableFooter settings config
  let batch : Batch :=
    ⟨settings, parsed, config, footer, root, destination.format, destination.force⟩
  let results ← ExceptT.lift (batch.compileEach inputs)
  tellResults results
  match (results.filter hasFailed).length with
  | 0 => pure ()
  | failed => throw (.batchFailed failed results.length)

end Questionnaire.CommandLine
