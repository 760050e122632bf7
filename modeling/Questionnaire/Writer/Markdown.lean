import Questionnaire.Writer.Call

/-! # Markdown

The Markdown of a call depends only on the table that is open (`TableState`): the first line of a
table is its header, an empty one unless a section stands first, and a delimiter line follows it.
Characters with a meaning in Markdown are escaped, and line feeds in a text become blanks.
Indentation is written as em spaces, one for each started 200 twentieths of a point. -/

namespace Questionnaire.Markdown

/-- Whether a table is open, and whether its header is written. -/
structure TableState where
  isOpen : Bool
  hasHeader : Bool
deriving DecidableEq, Repr

/-- No table is open. -/
def TableState.start : TableState := ⟨false, false⟩

/-- The open table still lacks its header. -/
def TableState.lacksHeader (table : TableState) : Bool := table.isOpen && !table.hasHeader

/-! ### Texts -/

/-- The characters with a meaning in Markdown. -/
def isSpecial (c : Char) : Bool := "\\`*_|#[]<>".toList.contains c

/-- A character of a text as Markdown. -/
def escapeChar (c : Char) : List Char :=
  if isSpecial c then ['\\', c] else if c = '\n' then [' '] else [c]

/-- A text as Markdown. -/
def escape (text : String) : List Char := text.toList.flatMap escapeChar

/-- A text, between double asterisks when it is bold and not empty. -/
def emphasised (run : TextRun) : List Char :=
  let text := escape run.text
  if run.style.bold && !text.isEmpty then ['*', '*'] ++ text ++ ['*', '*'] else text

/-- The indentation that one em space stands for. -/
def indentUnit : Nat := 200

/-- Em spaces for an indentation. -/
def indentation (indent : UInt32) : List Char :=
  (List.replicate ((indent.toNat + indentUnit - 1) / indentUnit) "&emsp;".toList).flatten

/-- A text behind its indentation. -/
def indented (run : TextRun) (indent : UInt32) : List Char := indentation indent ++ emphasised run

/-! ### Calls -/

/-- A line of a table with the texts of its two cells; an empty second cell is only a blank. -/
def tableLine (left right : List Char) : List Char :=
  "| ".toList ++ left ++ " | ".toList ++ right ++ " |\n".toList

/-- A line of a table whose second cell is left out. -/
def headerLine (cell : List Char) : List Char := "| ".toList ++ cell ++ " | |\n".toList

/-- The line between header and body of a table. -/
def delimiterLine : List Char := "|---|---|\n".toList

/-- The header of a table that starts with a row. -/
def emptyHeader : List Char := "| | |\n".toList

/-- A paragraph and the empty line behind it. -/
def paragraph (text : List Char) : List Char := text ++ "\n\n".toList

/-- The Markdown of a footer image. -/
def footer (image : FooterImage) : List Char :=
  ("---\n\n<img src=\"" ++ image.path ++ "\" width=\"" ++ toString image.width.toNat ++
    "\" height=\"" ++ toString image.height.toNat ++ "\" alt=\"footer\">\n").toList

/-- The Markdown of a call and the table that is open after it. -/
def emit (table : TableState) : Call → List Char × TableState
  | .paragraph .title run => (paragraph ("# ".toList ++ escape run.text), table)
  | .paragraph .questionLabel run => (paragraph ("### ".toList ++ escape run.text), table)
  | .paragraph .description run | .paragraph .answer run => (paragraph (emphasised run), table)
  | .paragraph .spacer _ => ([], table)
  | .beginTable => ([], ⟨true, false⟩)
  | .sectionHeader run _ indent =>
    let line := headerLine (indented run indent)
    if table.lacksHeader then (line ++ delimiterLine, { table with hasHeader := true })
    else (line, table)
  | .tableRow label value indent =>
    let line := tableLine (indented label indent) (emphasised value)
    if table.lacksHeader then
      (emptyHeader ++ delimiterLine ++ line, { table with hasHeader := true })
    else (line, table)
  | .endTable => (['\n'], { table with isOpen := false })
  | .footerImage image => (footer image, table)

/-- The Markdown of each of a list of calls. -/
def emitAll (table : TableState) : List Call → List (List Char)
  | [] => []
  | call :: calls =>
    let (text, table) := emit table call
    text :: emitAll table calls

end Questionnaire.Markdown

namespace Questionnaire

/-- A document as Markdown. -/
def Document.markdown (document : Document) (style : StyleSheet) (footer : Option FooterImage) :
    String :=
  String.ofList (Markdown.emitAll .start (document.calls style footer)).flatten

end Questionnaire
