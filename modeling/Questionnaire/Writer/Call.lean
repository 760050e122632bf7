import Questionnaire.Document.Basic
import Questionnaire.Export

/-! # Writing documents

A document is written by a sequence of calls on a writer. Each section of the top level opens a
table of its own, which holds the section's rows and nested headers; a table is closed with a spacer
behind it. Standalone questions stand between the tables as two paragraphs, label and answer.
`Document.calls` lists the calls, and `Writer.feed` makes them one after another until the writer
refuses one. -/

namespace Questionnaire

/-- A text with its style. -/
structure TextRun where
  text : String
  font : String
  style : TextStyle
deriving DecidableEq, Repr

/-- What a paragraph of its own is for. -/
inductive ParagraphRole where
  | title
  | description
  | questionLabel
  | answer
  | spacer
deriving DecidableEq, Repr

/-- A call on a writer. -/
inductive Call where
  | paragraph (role : ParagraphRole) (run : TextRun)
  | beginTable
  | sectionHeader (run : TextRun) (shading : String) (indent : UInt32)
  | tableRow (label value : TextRun) (indent : UInt32)
  | endTable
  | footerImage (image : FooterImage)
deriving DecidableEq, Repr

/-! ### The calls of a document -/

namespace StyleSheet

/-- A text in the font of the sheet. -/
def run (style : StyleSheet) (text : String) (textStyle : TextStyle) : TextRun :=
  ⟨text, style.fontFamily, textStyle⟩

/-- The calls that close a table. -/
def closeTable (style : StyleSheet) : List Call :=
  [.endTable, .paragraph .spacer (style.run "" style.description)]

/-- The header of a section. -/
def headerCall (style : StyleSheet) (text : String) (depth : Nat) : Call :=
  .sectionHeader (style.run text (style.sectionHeader depth)) (style.sectionShading depth)
    (style.indent depth)

/-- The row of a question. -/
def rowCall (style : StyleSheet) (label value : String) (depth : Nat) : Call :=
  .tableRow (style.run label (style.rowLabel depth)) (style.run value (style.rowValue depth))
    (style.indent depth)

/-- The paragraphs of a standalone question; the placeholder stands for an answer that is
missing. -/
def standaloneCalls (style : StyleSheet) (label value : String) (answered : Bool) : List Call :=
  [.paragraph .questionLabel (style.run label style.standaloneLabel),
    .paragraph .answer
      (style.run (if answered then value else style.placeholder) (style.standaloneAnswer answered))]

/-- The calls of a block and whether a table is open after them, given whether one is open
before. -/
def blockCalls (style : StyleSheet) (inTable : Bool) : Block → List Call × Bool
  | .sectionHeader text depth =>
    let header := style.headerCall text depth
    if !inTable then ([.beginTable, header], true)
    else if depth = 0 then (style.closeTable ++ [.beginTable, header], true)
    else ([header], true)
  | .row label value depth =>
    let row := style.rowCall label value depth
    (if inTable then [row] else [.beginTable, row], true)
  | .standalone label value answered =>
    let paragraphs := style.standaloneCalls label value answered
    (if inTable then style.closeTable ++ paragraphs else paragraphs, false)

/-- The calls of a list of blocks, the last table being closed. -/
def bodyCalls (style : StyleSheet) (inTable : Bool) : List Block → List Call
  | [] => if inTable then style.closeTable else []
  | block :: blocks =>
    let (calls, inTable) := style.blockCalls inTable block
    calls ++ bodyCalls style inTable blocks

end StyleSheet

/-- The calls that write a document. -/
def Document.calls (document : Document) (style : StyleSheet) (footer : Option FooterImage) :
    List Call :=
  [.paragraph .title (style.run document.title style.title)] ++
    (document.description.map fun text =>
      Call.paragraph .description (style.run text style.description)).toList ++
    style.bodyCalls false document.blocks ++ (footer.map Call.footerImage).toList

/-! ### Writers -/

/-- A writer with states of type `σ`, which takes a call or refuses it for a reason of type `ε`. -/
structure Writer (σ ε : Type) where
  accept : σ → Call → Except ε σ

/-- A run of calls: the state that was reached, and the refusal that stopped the run. -/
structure Written (σ ε : Type) where
  state : σ
  refusal : Option ε

namespace Writer

variable {σ ε : Type}

/-- Calls made one after another, until one is refused. -/
def feed (writer : Writer σ ε) (state : σ) : List Call → Written σ ε
  | [] => ⟨state, none⟩
  | call :: calls =>
    match writer.accept state call with
    | .ok state => feed writer state calls
    | .error reason => ⟨state, some reason⟩

/-- A document written by a writer from a state. -/
def write (writer : Writer σ ε) (state : σ) (document : Document) (style : StyleSheet)
    (footer : Option FooterImage) : Written σ ε :=
  writer.feed state (document.calls style footer)

/-- A writer that records the calls, the last one first, and refuses the one with a given number. -/
def recording (refused : Option Nat) : Writer (List Call) String where
  accept calls call :=
    if refused = some calls.length then .error ("refused call " ++ toString calls.length)
    else .ok (call :: calls)

end Writer

end Questionnaire
