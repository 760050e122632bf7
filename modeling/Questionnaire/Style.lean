/-! # Styles

A style sheet gives every block its size, weight, colour, shading and indentation. Sizes come from
tables by depth; depths past the end of a table take its last entry. Sizes are in half-points and
indentations in twentieths of a point, both as 32-bit words: an indentation that would not fit stays
at the largest word (`StyleSheet.indent`). -/

namespace Questionnaire

/-- Which texts besides headers are bold. -/
inductive Emphasis where
  | headersOnly
  | everywhere
deriving DecidableEq, Repr

namespace Emphasis

/-- The word for an emphasis. -/
def label : Emphasis → String
  | .headersOnly => "headers_only"
  | .everywhere => "everywhere"

/-- The emphases in the order in which a message lists them. -/
def all : List Emphasis := [.headersOnly, .everywhere]

end Emphasis

/-- How a text looks. -/
structure TextStyle where
  size : UInt32
  bold : Bool
  color : Option String
deriving DecidableEq, Repr

/-- How documents look. -/
structure StyleSheet where
  fontFamily : String
  emphasis : Emphasis
  titleSize : UInt32
  sectionSizes : List UInt32
  rowSizes : List UInt32
  standaloneLabelSize : UInt32
  answerSize : UInt32
  topSectionShading : String
  nestedSectionShading : String
  indentStep : UInt32
  placeholder : String
  placeholderColor : String
  answerColor : String
deriving DecidableEq, Repr

/-- The largest word. -/
def maxWord32 : Nat := 1 <<< 32 - 1

namespace StyleSheet

/-- The style of documents for which nothing else is asked. -/
def standard : StyleSheet where
  fontFamily := "Avenir Next LT Pro"
  emphasis := .headersOnly
  titleSize := 36
  sectionSizes := [36, 26, 24, 22]
  rowSizes := [24, 24, 22, 20]
  standaloneLabelSize := 28
  answerSize := 24
  topSectionShading := "D0D0D0"
  nestedSectionShading := "F0F0F0"
  indentStep := 200
  placeholder := String.ofList (List.replicate 50 '_')
  placeholderColor := "CCCCCC"
  answerColor := "000000"

/-- The size of an empty table. -/
def fallbackSize : UInt32 := 22

/-- The entry of a table at a depth. -/
def sizeAt (table : List UInt32) (depth : Nat) : UInt32 :=
  (table[depth]? <|> table.getLast?).getD fallbackSize

/-- A text without emphasis. -/
def plain (size : UInt32) : TextStyle := ⟨size, false, none⟩

/-- A bold text. -/
def bold (size : UInt32) : TextStyle := ⟨size, true, none⟩

/-- The title of the document. -/
def title (style : StyleSheet) : TextStyle := bold style.titleSize

/-- The description below the title. -/
def description (style : StyleSheet) : TextStyle := plain style.answerSize

/-- The header of a section. -/
def sectionHeader (style : StyleSheet) (depth : Nat) : TextStyle :=
  bold (sizeAt style.sectionSizes depth)

/-- The shading behind the header of a section. -/
def sectionShading (style : StyleSheet) (depth : Nat) : String :=
  if depth = 0 then style.topSectionShading else style.nestedSectionShading

/-- The question of a row. -/
def rowLabel (style : StyleSheet) (depth : Nat) : TextStyle :=
  match style.emphasis with
  | .headersOnly => plain (sizeAt style.rowSizes depth)
  | .everywhere => bold (sizeAt style.rowSizes depth)

/-- The answer of a row. -/
def rowValue (style : StyleSheet) (depth : Nat) : TextStyle := plain (sizeAt style.rowSizes depth)

/-- The indentation of a block: a step for every level below the second one. -/
def indent (style : StyleSheet) (depth : Nat) : UInt32 :=
  UInt32.ofNat (min (min (depth - 1) maxWord32 * style.indentStep.toNat) maxWord32)

/-- The question of a standalone entry. -/
def standaloneLabel (style : StyleSheet) : TextStyle := bold style.standaloneLabelSize

/-- The answer of a standalone entry, or the placeholder in its place. -/
def standaloneAnswer (style : StyleSheet) (answered : Bool) : TextStyle :=
  if answered then ⟨style.answerSize, true, some style.answerColor⟩
  else ⟨style.answerSize, false, some style.placeholderColor⟩

end StyleSheet

end Questionnaire
