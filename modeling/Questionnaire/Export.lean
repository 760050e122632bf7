import Questionnaire.Decode.Record
import Questionnaire.Decode.Text
import Questionnaire.Style
import Questionnaire.Text.Blank

/-! # Export settings

What is needed besides a document to make a file of it: the style, an image for the footer, and the
template of the file's name. Every setting has a default, and a text without any setting stands for
the defaults (`ExportConfig.ofText`). -/

namespace Questionnaire

open Decode

/-- An image in the footer of a document, with its size in pixels. -/
structure FooterImage where
  path : String
  width : UInt32
  height : UInt32
deriving DecidableEq, Repr

/-- The settings of an export. -/
structure ExportConfig where
  style : StyleSheet
  footerImage : Option FooterImage
  filenameTemplate : String
deriving DecidableEq, Repr

/-- The template of file names: the title of the form, with underscores for blanks. -/
def defaultFilenameTemplate : String := "\x7b\x7bunderscore form.title\x7d\x7d.md"

/-- The settings of an export for which nothing is asked. -/
def ExportConfig.standard : ExportConfig := ⟨.standard, none, defaultFilenameTemplate⟩

/-! ### Reading -/

/-- An emphasis by its name. -/
def Emphasis.decode : Decoder Emphasis := variant Emphasis.label Emphasis.all

namespace StyleSheet

/-- The record of a style sheet. -/
def shape : Shape (Filling StyleSheet) StyleSheet :=
  .filling "StyleSheet" .standard [
    .update "font_family" string fun s x => { s with fontFamily := x },
    .update "emphasis" Emphasis.decode fun s x => { s with emphasis := x },
    .update "title_size" word32 fun s x => { s with titleSize := x },
    .update "section_sizes" (list word32) fun s x => { s with sectionSizes := x },
    .update "row_sizes" (list word32) fun s x => { s with rowSizes := x },
    .update "standalone_label_size" word32 fun s x => { s with standaloneLabelSize := x },
    .update "answer_size" word32 fun s x => { s with answerSize := x },
    .update "top_section_shading" string fun s x => { s with topSectionShading := x },
    .update "nested_section_shading" string fun s x => { s with nestedSectionShading := x },
    .update "indent_step" word32 fun s x => { s with indentStep := x },
    .update "placeholder" string fun s x => { s with placeholder := x },
    .update "placeholder_color" string fun s x => { s with placeholderColor := x },
    .update "answer_color" string fun s x => { s with answerColor := x }]

/-- A style sheet in received data. -/
def decode : Decoder StyleSheet := shape.decode

end StyleSheet

namespace FooterImage

/-- A partly read footer image. -/
structure Draft where
  path : Option String := none
  width : Option UInt32 := none
  height : Option UInt32 := none

/-- The record of a footer image. -/
def shape : Shape Draft FooterImage where
  name := "FooterImage"
  slots := [
    .of ["path"] true (text "path string") (·.path) fun d x => { d with path := some x },
    .of ["width"] false word32 (·.width) fun d x => { d with width := some x },
    .of ["height"] false word32 (·.height) fun d x => { d with height := some x }]
  start := {}
  complete d := do
    return { path := ← need "path" d.path, width := d.width.getD 100, height := d.height.getD 50 }

/-- A footer image in received data. -/
def decode : Decoder FooterImage := shape.decode

end FooterImage

namespace ExportConfig

/-- The record of export settings. -/
def shape : Shape (Filling ExportConfig) ExportConfig :=
  .filling "ExportConfig" .standard [
    .update "style" StyleSheet.decode fun c x => { c with style := x },
    .update "footer_image" (nullable FooterImage.decode) fun c x => { c with footerImage := x },
    .update "filename_template" string fun c x => { c with filenameTemplate := x }]

/-- Export settings in received data. -/
def decode : Decoder ExportConfig := shape.decode

/-- The export settings that a JSON text writes; a blank text asks for nothing. -/
def ofText (s : String) : Except Refusal ExportConfig :=
  if Text.isAllBlank s then .ok .standard else Decode.ofText decode s

end ExportConfig

/-! ### Writing -/

/-- A word as a number. -/
def wordToJson (n : UInt32) : Json := .ofNat n.toNat

/-- A style sheet as an object. -/
def StyleSheet.toJson (s : StyleSheet) : Json :=
  .obj [("font_family", .str s.fontFamily), ("emphasis", .str s.emphasis.label),
    ("title_size", wordToJson s.titleSize), ("section_sizes", .arr (s.sectionSizes.map wordToJson)),
    ("row_sizes", .arr (s.rowSizes.map wordToJson)),
    ("standalone_label_size", wordToJson s.standaloneLabelSize),
    ("answer_size", wordToJson s.answerSize),
    ("top_section_shading", .str s.topSectionShading),
    ("nested_section_shading", .str s.nestedSectionShading),
    ("indent_step", wordToJson s.indentStep), ("placeholder", .str s.placeholder),
    ("placeholder_color", .str s.placeholderColor), ("answer_color", .str s.answerColor)]

/-- A footer image as an object. -/
def FooterImage.toJson (image : FooterImage) : Json :=
  .obj [("path", .str image.path), ("width", wordToJson image.width),
    ("height", wordToJson image.height)]

/-- Export settings as an object; a footer image that is not set is left out. -/
def ExportConfig.toJson (c : ExportConfig) : Json :=
  .obj ([("style", c.style.toJson)] ++
    (match c.footerImage with
    | some image => [("footer_image", image.toJson)]
    | none => []) ++
    [("filename_template", .str c.filenameTemplate)])

end Questionnaire
