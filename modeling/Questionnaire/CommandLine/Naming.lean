import Questionnaire.Document.Data
import Questionnaire.Json.Printer
import Questionnaire.Template.Render
import Questionnaire.Writer.Markdown

/-! # Formats and file names

A document is written as Markdown or as JSON. A name that a template gives keeps its own dots but
not the ending of a document: a known ending is taken off before that of the format is put on
(`OutputFormat.fileName`). In a batch the name of the answers stands before the ending, whatever it
looks like, and a JSON document never takes the name of the answers that it came from. -/

namespace Questionnaire.CommandLine

/-- The formats of a written document. -/
inductive OutputFormat where
  | markdown
  | json
deriving DecidableEq, Repr

/-- A text without an ending, if it has it. -/
def dropEnding? (ending text : List Char) : Option (List Char) :=
  if ending.isSuffixOf text then some (text.take (text.length - ending.length)) else none

/-- A name without the ending of a document. -/
def bareName (name : List Char) : List Char :=
  match dropEnding? ['.', 'm', 'd'] name with
  | some stem => stem
  | none => (dropEnding? ['.', 'j', 's', 'o', 'n'] name).getD name

namespace OutputFormat

/-- The ending of the files of a format. -/
def ending : OutputFormat → List Char
  | .markdown => ['.', 'm', 'd']
  | .json => ['.', 'j', 's', 'o', 'n']

/-- The ending of the files of a format in a batch. -/
def batchEnding : OutputFormat → List Char
  | .markdown => ['.', 'm', 'd']
  | .json => ".compiled.json".toList

/-- The name of a document's file, from the name that a template gives. -/
def fileName (format : OutputFormat) (rendered : String) : String :=
  String.ofList (bareName rendered.toList ++ format.ending)

/-- The name of a document's file in a batch, from the stem of the answers' name. -/
def batchFileName (format : OutputFormat) (stem : String) : String :=
  String.ofList (stem.toList ++ format.batchEnding)

/-- The contents of a document's file. -/
def contents (format : OutputFormat) (document : Document) (config : ExportConfig)
    (footer : Option FooterImage) : String :=
  match format with
  | .markdown => document.markdown config.style footer
  | .json => document.toJson.pretty ++ "\n"

end OutputFormat

/-- The name of a form's document in a format, by a template. -/
def documentName? (format : OutputFormat) (template : String) (form : Form) : Option String :=
  (Template.outputFilename? template form).map format.fileName

end Questionnaire.CommandLine
