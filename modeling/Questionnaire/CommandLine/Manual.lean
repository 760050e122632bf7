import Questionnaire.CommandLine.Arguments

/-! # The manual

Every command is described once, by an `Entry`: what it is for, its options, and its arguments that
belong to no option. The grammar of the command is read off the entry, and so is the help on it. -/

namespace Questionnaire.CommandLine

namespace Manual

/-- A value that an option takes, and the one that counts if none is given. -/
structure ValueEntry where
  label : String
  kind : ValueKind
  default? : Option String
deriving DecidableEq, Repr

/-- An option of a command. -/
structure OptionEntry where
  name : String
  letter : Option Char
  value? : Option ValueEntry
  needed : Bool
  text : String
deriving DecidableEq, Repr

/-- An argument that belongs to no option. The words that can be given may have meanings. -/
structure PlaceEntry where
  name : String
  kind : ValueKind
  /-- The argument can be left out or given more than once. -/
  repeats : Bool
  text : String
  meanings : List (String × String)
deriving DecidableEq, Repr

/-- What is written about a command. -/
structure Entry where
  about : String
  options : List OptionEntry
  places : List PlaceEntry
deriving DecidableEq, Repr

/-! ### Kinds of options -/

/-- An option without a value. -/
def flag (name text : String) : OptionEntry := ⟨name, none, none, false, text⟩

/-- An option for a path. -/
def path (name label text : String) : OptionEntry :=
  ⟨name, none, some ⟨label, .path, none⟩, false, text⟩

/-- A path to the form, which has to be given. -/
def form (text : String) : OptionEntry := { path "form" "FORM" text with needed := true }

/-- A path to answers. -/
def answers (text : String) : OptionEntry := path "answers" "ANSWERS" text

/-- A choice of a format, of which the first one counts if none is chosen. -/
def format (formats : List String) : OptionEntry :=
  ⟨"format", none, some ⟨"FORMAT", .oneOf formats, formats.head?⟩, false, ""⟩

/-- The formats of documents. -/
def documentFormats : List String := ["markdown", "json"]

/-- The pattern of the files in a batch, if none is given. -/
def defaultPattern : String := "*.json"

/-- The options of every command. -/
def commonOptions : List OptionEntry := [
  ⟨"verbose", some 'v', none, false,
    "Log debug output to stderr and show extra detail while filling in"⟩,
  path "config" "CONFIG"
    "Export configuration JSON (style, footer image, filename template)"]

/-! ### Commands -/

/-- What is written about the visibility of questions. -/
def visible : Entry where
  about := "Print which questions are visible for the given answers"
  options := [form "Form snapshot (JSON, or CBOR with a .cbor extension)",
    answers "JSON object of answers keyed by question id",
    ⟨"question", none, some ⟨"ID", .anyText, none⟩, false, "Only report this question"⟩]
  places := []

/-- What is written about the preview. -/
def preview : Entry where
  about := "Show the live preview: status, next question and visible questions"
  options := [form "", answers "", format ["text", "json"]]
  places := []

/-- What is written about single documents. -/
def compile : Entry where
  about := "Compile one set of answers into a document"
  options := [form "", { answers "" with needed := true },
    path "out" "DIR" "Output directory (defaults to FORMDOC_OUTPUT_DIR or the current directory)",
    format documentFormats, flag "stdout" "Print the document instead of writing a file",
    flag "force" "Overwrite an existing document"]
  places := []

/-- What is written about documents for a folder of answers. -/
def batch : Entry where
  about := "Compile every answers file in a directory in parallel"
  options := [form "",
    { path "dir" "DIR" "Directory holding the answers files" with needed := true },
    ⟨"pattern", none, some ⟨"PATTERN", .anyText, some defaultPattern⟩, false,
      "Glob matched against answers file names"⟩,
    path "out" "DIR" "", format documentFormats, flag "force" ""]
  places := []

/-- What is written about the check of answers. -/
def validate : Entry where
  about := "Validate answers against the questions currently visible"
  options := [form "", { answers "" with needed := true }]
  places := []

/-- What is written about interviews. -/
def fill : Entry where
  about := "Answer a form question by question, then write the document"
  options := [form "", answers "Answers to start from", path "out" "DIR" "",
    flag "answers-json" "Also print the final answers as JSON", flag "force" ""]
  places := []

/-- The schemas with what they describe. -/
def schemaMeanings : List (String × String) :=
  [("form", "Schema of the form snapshot format"), ("config", "Schema of the export configuration"),
    ("answers", "Schema of the answers to a form's visible questions")]

/-- What is written about schemas. -/
def schema : Entry where
  about := "Print a JSON schema"
  options := [path "form" "FORM" "Form snapshot, required for the answers schema",
    answers "Answers deciding which questions are visible"]
  places := [⟨"KIND", .oneOf (schemaMeanings.map (·.1)), false, "", schemaMeanings⟩]

/-- What is written about the check of forms. -/
def lint : Entry where
  about := "Report authoring problems such as rules pointing at unknown questions"
  options := [form ""]
  places := []

/-- What is written about help. -/
def help : Entry where
  about := "Print this message or the help of the given subcommand(s)"
  options := []
  places := [⟨"COMMAND", .anyText, true, "Print help for the subcommand(s)", []⟩]

/-- The commands by name. -/
def entries : List (String × Entry) :=
  [("visible", visible), ("preview", preview), ("compile", compile), ("batch", batch),
    ("validate", validate), ("fill", fill), ("schema", schema), ("lint", lint)]

end Manual

/-! ### Grammars -/

open Manual

/-- The name and the letter of a flag. -/
def Manual.OptionEntry.flag? (entry : OptionEntry) : Option (String × Option Char) :=
  if entry.value?.isNone then some (entry.name, entry.letter) else none

/-- The name of an option with a value and the kind of that value. -/
def Manual.OptionEntry.valued? (entry : OptionEntry) : Option (String × ValueKind) :=
  entry.value?.map fun value => (entry.name, value.kind)

/-- The arguments that an entry describes, with those of every command. -/
def Manual.Entry.grammar (command : String) (entry : Entry) : Grammar where
  command := some command
  flags := (commonOptions ++ entry.options).filterMap (·.flag?) ++ [("help", some 'h')]
  values := (commonOptions ++ entry.options).filterMap (·.valued?)
  places := entry.places.map fun place => (place.name, place.kind)
  stopsAtPlace := false

/-- The arguments before the name of the command. -/
def outerGrammar : Grammar where
  command := none
  flags := commonOptions.filterMap (·.flag?) ++ [("help", some 'h'), ("version", some 'V')]
  values := commonOptions.filterMap (·.valued?)
  places := []
  stopsAtPlace := true

/-- The grammar of the command of a name. -/
def grammarOf? (name : String) : Option Grammar := (entries.lookup name).map (·.grammar name)

end Questionnaire.CommandLine
