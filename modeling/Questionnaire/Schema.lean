import Questionnaire.Export

/-! # Published schemas

The JSON schemas of the two documents that people write: forms (`Form.schema`) and export settings
(`ExportConfig.schema`). The defaults that they show are the ones that reading uses. -/

namespace Questionnaire.Schema

/-! ### Parts of schemas -/

/-- The members of a schema. -/
abbrev Part := List (String × Json)

/-- A value of a named type. -/
def typed (name : String) : Part := [("type", .str name)]

/-- A text. -/
def text : Part := typed "string"

/-- A text or null. -/
def optionalText : Part := [("type", .arr [.str "string", .str "null"])]

/-- A truth value. -/
def truth : Part := typed "boolean"

/-- A signed 64-bit integer. -/
def int64 : Part := typed "integer" ++ [("format", .str "int64")]

/-- An unsigned 32-bit integer. -/
def word32 : Part := typed "integer" ++ [("format", .str "uint32"), ("minimum", .ofNat 0)]

/-- What a definition says. -/
def ref (name : String) : Part := [("$ref", .str ("#/$defs/" ++ name))]

/-- What a definition says, or null. -/
def nullableRef (name : String) : Part :=
  [("anyOf", .arr [Json.object (ref name), Json.object (typed "null")])]

/-- A list. -/
def listOf (item : Part) : Part := typed "array" ++ [("items", Json.object item)]

/-- A value that may be left out. -/
def withDefault (value : Json) (part : Part) : Part := part ++ [("default", value)]

/-- A schema with an explanation. -/
def described (explanation : String) (part : Part) : Part :=
  part ++ [("description", .str explanation)]

/-- One of several schemas. -/
def oneOf (parts : List Part) : Part := [("oneOf", .arr (parts.map Json.object))]

/-- One of several words. -/
def oneWordOf (words : List String) : Part := text ++ [("enum", .arr (words.map .str))]

/-- One word. -/
def word (w : String) : Part := text ++ [("const", .str w)]

/-- An object with members of these schemas, some of which have to be there. -/
def record (required : List String) (members : List (String × Part)) : Part :=
  typed "object" ++
    [("properties", Json.object (members.map fun (key, part) => (key, Json.object part)))] ++
    if required.isEmpty then [] else [("required", .arr (required.map .str))]

/-- A schema of its own with its title and definitions. -/
def published (title : String) (definitions : List (String × Part)) (part : Part) : Json :=
  Json.object (part ++
    [("$schema", .str "https://json-schema.org/draft/2020-12/schema"), ("title", .str title),
      ("$defs", Json.object (definitions.map fun (key, part) => (key, Json.object part)))])

/-! ### Forms -/

/-- The definitions that forms use. -/
def formDefinitions : List (String × Part) := [
  ("ItemId", described ("Identifier of a question, option or rule.\n\n" ++
    "The authoring store hands out integer keys while answer maps are keyed by\n" ++
    "strings, so ids are normalised to their string form on the way in and are\n" ++
    "always compared that way.") text),
  ("LogicRule", described ("Conditional visibility rule between two questions of one form.\n\n" ++
    "The store keeps the three references nullable. A rule missing any of them\nnever matches.") <|
    record ["id"] [
      ("id", ref "ItemId"),
      ("targetQuestionId", withDefault .null (nullableRef "ItemId")),
      ("triggerQuestionId", withDefault .null (nullableRef "ItemId")),
      ("triggerOptionId", withDefault .null (nullableRef "ItemId")),
      ("action", withDefault (.str "SHOW") (ref "RuleAction"))]),
  ("OptionSpec", described "Selectable answer of a multiple choice question." <|
    record ["id", "text"] [
      ("id", ref "ItemId"), ("text", text), ("value", optionalText),
      ("orderIndex", withDefault (.ofNat 0) int64)]),
  ("QuestionSpec", described "A node of the question tree." <|
    record ["id", "text", "type"] [
      ("id", ref "ItemId"), ("text", text), ("type", ref "QuestionType"),
      ("parentId", nullableRef "ItemId"), ("orderIndex", withDefault (.ofNat 0) int64),
      ("required", withDefault (.bool true) truth),
      ("allowMultipleAnswers", withDefault (.bool false) truth),
      ("description", optionalText), ("placeholder", optionalText),
      ("options", listOf (ref "OptionSpec"))]),
  ("QuestionType", described "Supported question kinds." <|
    oneOf [oneWordOf ["multiple_choice", "text", "date", "number"],
      described "Grouping node; never answered itself." (word "section")]),
  ("RuleAction", described "What a matching rule does to its target." <|
    oneOf [oneWordOf ["SHOW", "HIDE"],
      described ("Anything else the store holds, including `null`. " ++
        "Such rules are skipped.") (word "UNKNOWN")])]

/-- The schema of forms. -/
def form : Json :=
  published "FormSpec" formDefinitions <|
    described "Immutable snapshot of one form as handed over by the authoring store." <|
      record ["id", "title"] [
        ("id", ref "ItemId"), ("title", text), ("description", optionalText),
        ("questions", withDefault (.arr []) (listOf (ref "QuestionSpec"))),
        ("rules", listOf (ref "LogicRule"))]

/-! ### Export settings -/

/-- A text with a default. -/
def textOr (s : String) : Part := withDefault (.str s) text

/-- A word with a default. -/
def wordOr (n : UInt32) : Part := withDefault (wordToJson n) word32

/-- A table of sizes with a default. -/
def sizesOr (ns : List UInt32) : Part := withDefault (.arr (ns.map wordToJson)) (listOf word32)

/-- The schema of style sheets that are filled up from one of them. -/
def styleSheet (s : StyleSheet) : Part :=
  described ("Presentation table used when a compiled document is written.\n\n" ++
    "Size tables are indexed by block depth; depths past the end use the last\n" ++
    "entry, so outer levels are the most prominent.") <|
    record [] [
      ("font_family", textOr s.fontFamily),
      ("emphasis", withDefault (.str s.emphasis.label) (ref "Emphasis")),
      ("title_size", wordOr s.titleSize),
      ("section_sizes", sizesOr s.sectionSizes),
      ("row_sizes", sizesOr s.rowSizes),
      ("standalone_label_size", wordOr s.standaloneLabelSize),
      ("answer_size", wordOr s.answerSize),
      ("top_section_shading", textOr s.topSectionShading),
      ("nested_section_shading", textOr s.nestedSectionShading),
      ("indent_step", described "Indent per level below the first, in twentieths of a point."
        (wordOr s.indentStep)),
      ("placeholder", textOr s.placeholder),
      ("placeholder_color", textOr s.placeholderColor),
      ("answer_color", textOr s.answerColor)]

/-- The definitions that export settings use. -/
def exportDefinitions : List (String × Part) := [
  ("Emphasis", described "Which runs besides headers are set in bold." <|
    oneOf [described "Section headers and standalone labels only." (word "headers_only"),
      described "Row labels are bold as well." (word "everywhere")]),
  ("FooterImage", described "Image placed in the document footer. Dimensions are in pixels." <|
    record ["path"] [("path", text), ("width", wordOr 100), ("height", wordOr 50)]),
  ("StyleSheet", styleSheet .standard)]

/-- The schema of export settings. -/
def exportConfig : Json :=
  published "ExportConfig" exportDefinitions <|
    described "Settings for turning compiled documents into files." <|
      record [] [
        ("style", withDefault StyleSheet.standard.toJson.sorted (ref "StyleSheet")),
        ("footer_image", nullableRef "FooterImage"),
        ("filename_template", textOr defaultFilenameTemplate)]

end Questionnaire.Schema
