import Questionnaire.CommandLine.Manual

/-! # Help

The pages that tell how the program and its commands are used. A page is what the command is for, a
line of usage, and sections of items. A brief page has one line for an item, with the texts in a
column; a detailed one has a block for it, with the text below its label. There are details on the
program, and on commands with words that have meanings. -/

namespace Questionnaire.CommandLine.Help

open Manual

/-- What a page says about an option or argument. -/
structure Item where
  label : String
  text : String
  /-- Remarks, which stand in brackets. -/
  notes : List String
  /-- Words that can be given, with their meanings. -/
  meanings : List (String × String)
deriving DecidableEq, Repr

/-! ### Layout -/

/-- A number of blanks. -/
def blanks (n : Nat) : String := String.ofList (List.replicate n ' ')

/-- A text that fills at least a number of columns. -/
def padded (width : Nat) (text : String) : String := text ++ blanks (width - text.length)

/-- The number of columns of the widest text. -/
def widest (texts : List String) : Nat := (texts.map String.length).foldl max 0

/-- A remark. -/
def bracketed (name value : String) : String := "[" ++ name ++ value ++ "]"

/-- The remark on words that can be given. -/
def wordsNote (words : List String) : String :=
  bracketed "possible values: " (String.intercalate ", " words)

/-- The line of an item on a brief page. -/
def Item.line (width : Nat) (item : Item) : String :=
  let words := if item.meanings.isEmpty then [] else [wordsNote (item.meanings.map (·.1))]
  "  " ++ padded width item.label ++ "  " ++
    String.intercalate " " ((item.text :: item.notes ++ words).filter (!·.isEmpty))

/-- The lines on the meanings of words. -/
def meaningLines (meanings : List (String × String)) : List String :=
  let width := widest (meanings.map (·.1)) + 2
  "Possible values:" :: meanings.map fun (word, meaning) =>
    "- " ++ padded width (word ++ ": ") ++ meaning

/-- The lines of an item on a detailed page. -/
def Item.block (item : Item) : List String :=
  let remarks := if item.notes.isEmpty then [] else "" :: item.notes
  let meanings := if item.meanings.isEmpty then [] else meaningLines item.meanings
  let texts := if item.text.isEmpty then remarks.drop 1 else item.text :: remarks
  ("  " ++ item.label) :: (texts ++ meanings).map (blanks 10 ++ ·)

/-- The items of a section below its heading. -/
def sectionText (detailed : Bool) (heading : String) (items : List Item) : String :=
  let width := widest (items.map (·.label))
  heading ++ ":\n" ++
    if detailed then
      String.intercalate "\n\n" (items.map fun item => String.intercalate "\n" item.block)
    else String.intercalate "\n" (items.map (·.line width))

/-! ### Items -/

/-- The sign under which a value or argument is mentioned. -/
def angled (label : String) : String := "<" ++ label ++ ">"

/-- An option with the label of its value. -/
def spelled (option : OptionEntry) : String :=
  "--" ++ option.name ++
    match option.value? with
    | some value => " " ++ angled value.label
    | none => ""

/-- An option with its letter, or with room for one. -/
def labelOf (option : OptionEntry) : String :=
  (match option.letter with
    | some c => String.ofList ['-', c, ',', ' ']
    | none => blanks 4) ++ spelled option

/-- The remarks on the value of an option. -/
def valueNotes (value : ValueEntry) : List String :=
  (value.default?.map (bracketed "default: ")).toList ++
    match value.kind with
    | .oneOf words => [wordsNote words]
    | _ => []

/-- The item of an option. The path of the export settings in the environment is told with the
option that it can stand in for. -/
def optionItem (configPath : String) (option : OptionEntry) : Item where
  label := labelOf option
  text := option.text
  notes :=
    (if option.name = "config" then [bracketed "env: FORMDOC_CONFIG=" configPath] else []) ++
      ((option.value?.map valueNotes).getD [])
  meanings := []

/-- The sign of an argument that belongs to no option. -/
def placeLabel (place : PlaceEntry) : String :=
  if place.repeats then bracketed place.name "" ++ "..." else angled place.name

/-- The item of an argument that belongs to no option. -/
def placeItem (place : PlaceEntry) : Item := ⟨placeLabel place, place.text, [], place.meanings⟩

/-- The options of a command and those of every command, by their numbers in either list; options of
one number by name. -/
def optionsInOrder (options : List OptionEntry) : List OptionEntry :=
  let numbered := commonOptions.zipIdx ++ options.zipIdx
  (numbered.mergeSort fun a b =>
    decide (a.2 < b.2) || (a.2 == b.2 && decide (a.1.name ≤ b.1.name))).map (·.1)

/-- The item of the flag for help, which tells of the other page if there are two. -/
def helpItem (hasDetails detailed : Bool) : Item :=
  ⟨"-h, --help", match hasDetails, detailed with
    | false, _ => "Print help"
    | true, false => "Print help (see more with '--help')"
    | true, true => "Print help (see a summary with '-h')", [], []⟩

/-! ### Pages -/

/-- A page of some sections. -/
def page (about usage : String) (sections : List String) : String :=
  String.intercalate "\n\n" (about :: ("Usage: formdoc " ++ usage) :: sections) ++ "\n"

/-- The page on the program. -/
def programPage (configPath : String) (detailed : Bool) : String :=
  let about :=
    if detailed then
      "Evaluates SHOW/HIDE rules of a form snapshot against respondent answers, previews the " ++
        "visible questions and writes the answers document"
    else "Conditional form preview and answer document export"
  let commands := (entries ++ [("help", help)]).map fun (name, entry) =>
    Item.mk name entry.about [] []
  page about "[OPTIONS] <COMMAND>" [
    sectionText false "Commands" commands,
    sectionText detailed "Options" ((optionsInOrder []).map (optionItem configPath) ++
      [helpItem true detailed, ⟨"-V, --version", "Print version", [], []⟩])]

/-- The page on a command. -/
def commandPage (configPath name : String) (entry : Entry) (detailed : Bool) : String :=
  let hasDetails := entry.places.any fun place => !place.meanings.isEmpty
  let shown := detailed && hasDetails
  let needed := (entry.options.filter (·.needed)).map spelled ++ entry.places.map placeLabel
  page entry.about (String.intercalate " " (name :: "[OPTIONS]" :: needed))
    ((if entry.places.isEmpty then []
      else [sectionText shown "Arguments" (entry.places.map placeItem)]) ++
    [sectionText shown "Options" ((optionsInOrder entry.options).map (optionItem configPath) ++
      [helpItem hasDetails shown])])

/-- The page on help itself, which has no options. -/
def helpPage : String :=
  page help.about (String.intercalate " " ("help" :: help.places.map placeLabel))
    [sectionText false "Arguments" (help.places.map placeItem)]

/-- The page on the command of a name, or on the program. -/
def text (configPath : Option String) (command : Option String) (detailed : Bool) : String :=
  let configPath := configPath.getD ""
  match command with
  | none => programPage configPath detailed
  | some name =>
    match entries.lookup name with
    | some entry => commandPage configPath name entry detailed
    | none => helpPage

end Questionnaire.CommandLine.Help
