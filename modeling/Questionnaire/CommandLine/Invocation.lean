import Questionnaire.CommandLine.Arguments
import Questionnaire.CommandLine.Fill
import Questionnaire.CommandLine.Inspect
import Questionnaire.CommandLine.LogFilter
import Questionnaire.CommandLine.Manual

/-! # Invocations

What the command line asks for. The options for details and for the export settings may stand before
the name of the command as well as behind it. The place behind it counts first, then the one before
it, and the path of the export settings is otherwise taken from the environment, in which an empty
path is a fault. -/

namespace Questionnaire.CommandLine

/-- The commands with their arguments. -/
inductive Command where
  | visible (form : String) (answers question : Option String)
  | preview (form : String) (answers : Option String) (mode : PreviewMode)
  | compile (form answers : String) (destination : Destination) (prints : Bool)
  | batch (form folder pattern : String) (destination : Destination)
  | validate (form answers : String)
  | fill (form : String) (answers : Option String) (destination : Destination)
    (printsAnswers : Bool)
  | schema (kind : SchemaKind) (form answers : Option String)
  | lint (form : String)
deriving DecidableEq, Repr

/-- What the environment says. -/
structure Environment where
  configPath : Option String
  outputFolder : Option String
  logFilter : Option String
deriving DecidableEq, Repr

/-- A command and what holds for all commands. -/
structure Invocation where
  settings : Settings
  command : Command
deriving DecidableEq, Repr

/-! ### Commands -/

namespace Arguments

/-- The value of an option that has to be given. -/
def required (arguments : Arguments) (name : String) : Except Stop String :=
  match arguments.value? name with
  | some value => .ok value
  | none => .error (.fault (.missingOption ("--" ++ name)))

/-- The format of documents. -/
def outputFormat (arguments : Arguments) : OutputFormat :=
  if arguments.value? "format" = some "json" then .json else .markdown

/-- Where and how a document is written. -/
def destination (arguments : Arguments) : Destination where
  folder := arguments.value? "out"
  format := arguments.outputFormat
  force := arguments.has "force"

/-- The way in which a preview is printed. -/
def previewMode (arguments : Arguments) : PreviewMode :=
  if arguments.value? "format" = some "json" then .json else .text

/-- The kind of schema. -/
def schemaKind (arguments : Arguments) : Except Stop SchemaKind :=
  match arguments.places with
  | "form" :: _ => .ok .form
  | "config" :: _ => .ok .config
  | "answers" :: _ => .ok .answers
  | _ => .error (.fault (.missingOption "KIND"))

end Arguments

/-- The command of a name with its arguments. -/
def commandOf (name : String) (a : Arguments) : Except Stop Command :=
  match name with
  | "visible" => do
    return .visible (← a.required "form") (a.value? "answers") (a.value? "question")
  | "preview" => do return .preview (← a.required "form") (a.value? "answers") a.previewMode
  | "compile" => do
    return .compile (← a.required "form") (← a.required "answers") a.destination
      (a.has "stdout")
  | "batch" => do
    return .batch (← a.required "form") (← a.required "dir")
      ((a.value? "pattern").getD Manual.defaultPattern) a.destination
  | "validate" => do return .validate (← a.required "form") (← a.required "answers")
  | "fill" => do
    return .fill (← a.required "form") (a.value? "answers") a.destination (a.has "answers-json")
  | "schema" => do return .schema (← a.schemaKind) (a.value? "form") (a.value? "answers")
  | "lint" => do return .lint (← a.required "form")
  | _ => .error (.fault (.unknownCommand name))

/-! ### Reading -/

/-- A path from the environment can stand in for the option that is not given. -/
def checkEnvironment (environment : Environment) (a : Arguments) : Except Stop Unit :=
  if (a.value? "config").isNone ∧ environment.configPath = some "" then
    .error (.fault (.badValue "config" ""))
  else .ok ()

/-- What holds for all commands, by the arguments before and behind the name of the command. -/
def settingsOf (environment : Environment) (outer inner : Arguments) : Settings where
  verbose := outer.has "verbose" || inner.has "verbose"
  configPath := ((inner.value? "config").or (outer.value? "config")).or environment.configPath
  outputFolder := environment.outputFolder
  warns := showsWarnings environment.logFilter

/-- The help that is asked for by the arguments behind the command for it. -/
def readHelp : List String → Stop
  | [] => .help none true
  | name :: rest =>
    if (grammarOf? name).isNone && name != "help" then .fault (.unknownCommand name)
    else
      match rest with
      | [] => .help (some name) true
      | argument :: _ => .fault (.unknownCommand argument)

/-- The command of a name, with the arguments behind it. -/
def readCommand (environment : Environment) (outer : Arguments) (name : String)
    (tokens : List String) : Except Stop Invocation := do
  match grammarOf? name with
  | none => throw (if name = "help" then readHelp tokens else .fault (.unknownCommand name))
  | some grammar =>
    let (inner, _) ← grammar.read tokens
    let command ← commandOf name inner
    checkEnvironment environment inner
    checkEnvironment environment outer
    return ⟨settingsOf environment outer inner, command⟩

/-- The invocation that arguments ask for. -/
def Invocation.ofArguments (environment : Environment) (tokens : List String) :
    Except Stop Invocation := do
  match ← outerGrammar.read tokens with
  | (_, []) => throw (.fault .missingCommand)
  | (outer, name :: rest) => readCommand environment outer name rest

end Questionnaire.CommandLine
