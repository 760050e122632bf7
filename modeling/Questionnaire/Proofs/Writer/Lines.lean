import Questionnaire.Proofs.Writer.Shape

/-! # The lines of a document

Line feeds and carriage returns end a line of Markdown. `Document.lines` lists the lines that a
document is written in, each made of marks of the writer, which end no line, and of texts that it
was handed. Behind each of them the writer puts a line feed, and there is no other line feed. But of
the line endings in a text only the line feeds are taken out: its carriage returns come through
(`filter_endsLine_escape`), and a line that is written as one is then read as several
(`only_carriage_returns_break_lines`). -/

namespace Questionnaire

namespace Markdown

/-- A line feed or a carriage return. -/
def endsLine (c : Char) : Bool := c == '\n' || c == '\r'

/-- The carriage returns of a text. -/
def returns (s : String) : List Char := s.toList.filter (· == '\r')

theorem filter_endsLine_indentation (indent : UInt32) :
    (indentation indent).filter endsLine = [] := by
  rw [indentation, List.filter_flatten, List.flatten_eq_nil_iff, List.map_replicate]
  exact fun piece hpiece => List.eq_of_mem_replicate hpiece

/-! ### Pieces of lines -/

/-- A part of a line: marks of the writer, which end no line, or a text that it was handed. -/
inductive Piece where
  | marks (cs : List Char) (whole : cs.filter endsLine = [])
  | text (s : String)

namespace Piece

/-- A piece as it is written. -/
def chars : Piece → List Char
  | marks cs _ => cs
  | text s => escape s

/-- The text of a piece. -/
def text? : Piece → Option String
  | marks _ _ => none
  | text s => some s

/-- The mark at either side of a bold text. -/
def asterisks : Piece := .marks ['*', '*'] rfl

/-- The indentation in front of a text. -/
def indentation (indent : UInt32) : Piece :=
  .marks (Markdown.indentation indent) (filter_endsLine_indentation indent)

/-- A text, between double asterisks when it is bold and not empty. -/
def emphasised (run : TextRun) : List Piece :=
  if run.style.bold && run.text != "" then [asterisks, .text run.text, asterisks]
  else [.text run.text]

end Piece

/-- A line, without the line feed behind it. -/
structure Line where
  pieces : List Piece

namespace Line

/-- A line as it is written. -/
def chars (line : Line) : List Char := line.pieces.flatMap Piece.chars

/-- The texts of a line. -/
def texts (line : Line) : List String := line.pieces.filterMap Piece.text?

/-- An empty line. -/
def blank : Line := ⟨[]⟩

/-- The line between header and body of a table. -/
def delimiter : Line := ⟨[.marks Markdown.delimiter rfl]⟩

/-- The header of a table that starts with a row. -/
def blankHeader : Line := ⟨[.marks Markdown.blankHeader rfl]⟩

/-- The line of a section. -/
def header (run : TextRun) (indent : UInt32) : Line :=
  ⟨[.marks "| ".toList rfl, .indentation indent] ++ Piece.emphasised run ++
    [.marks " | |".toList rfl]⟩

/-- The line of a row. -/
def row (label value : TextRun) (indent : UInt32) : Line :=
  ⟨[.marks "| ".toList rfl, .indentation indent] ++ Piece.emphasised label ++
    [.marks " | ".toList rfl] ++ Piece.emphasised value ++ [.marks " |".toList rfl]⟩

end Line

/-! ### The lines of calls -/

/-- The lines of a call: a paragraph and an empty line, the lines of a table up to an entry, or the
empty line behind a table. -/
def callLines (table : TableState) : Call → List Line
  | .paragraph .title run => [⟨[.marks "# ".toList rfl, .text run.text]⟩, .blank]
  | .paragraph .questionLabel run => [⟨[.marks "### ".toList rfl, .text run.text]⟩, .blank]
  | .paragraph .description run | .paragraph .answer run => [⟨Piece.emphasised run⟩, .blank]
  | .paragraph .spacer _ | .beginTable | .footerImage _ => []
  | .sectionHeader run _ indent =>
    .header run indent :: if table.lacksHeader then [.delimiter] else []
  | .tableRow label value indent =>
    (if table.lacksHeader then [.blankHeader, .delimiter] else []) ++ [.row label value indent]
  | .endTable => [.blank]

/-- The lines of a list of calls. -/
def linesFrom (table : TableState) : List Call → List Line
  | [] => []
  | call :: calls => callLines table call ++ linesFrom (emit table call).2 calls

end Markdown

open Markdown

/-- **The lines that a document is written in**, without a footer. -/
def Document.lines (document : Document) (style : StyleSheet) : List Line :=
  linesFrom .start (document.calls style none)

/-! ### The texts of a document -/

/-- The texts of a call that are written. -/
def Call.texts : Call → List String
  | .paragraph .spacer _ | .beginTable | .endTable | .footerImage _ => []
  | .paragraph _ run | .sectionHeader run _ _ => [run.text]
  | .tableRow label value _ => [label.text, value.text]

/-- The texts of a block; the placeholder stands for an answer that is missing. -/
def Block.texts (style : StyleSheet) : Block → List String
  | .sectionHeader text _ => [text]
  | .row label value _ => [label, value]
  | .standalone label value answered => [label, if answered then value else style.placeholder]

/-- The texts of a document in the order in which they are written. -/
def Document.texts (document : Document) (style : StyleSheet) : List String :=
  document.title :: document.description.toList ++ document.blocks.flatMap (Block.texts style)

theorem texts_bodyCalls (style : StyleSheet) (inTable : Bool) (blocks : List Block) :
    (style.bodyCalls inTable blocks).flatMap Call.texts = blocks.flatMap (Block.texts style) := by
  induction blocks generalizing inTable with
  | nil => cases inTable <;> rfl
  | cons block blocks ih =>
    have hblock : (style.blockCalls inTable block).1.flatMap Call.texts = block.texts style := by
      cases block with
      | sectionHeader text depth =>
        cases depth <;> cases inTable <;> rfl
      | row label value depth => cases inTable <;> rfl
      | standalone label value answered => cases inTable <;> rfl
    rw [StyleSheet.bodyCalls, List.flatMap_append, ih, hblock, List.flatMap_cons]

theorem texts_calls (document : Document) (style : StyleSheet) :
    (document.calls style none).flatMap Call.texts = document.texts style := by
  rw [Document.calls, Document.texts, List.flatMap_append, List.flatMap_append, texts_bodyCalls]
  cases document.description <;> simp [Call.texts, StyleSheet.run]

namespace Markdown

/-! ### What the lines hold -/

theorem filter_endsLine_escapeChar (c : Char) :
    (escapeChar c).filter endsLine = if c = '\r' then [c] else [] := by
  unfold escapeChar
  split
  · next hspecial =>
    -- no character with a meaning in Markdown ends a line
    have hall : "\\`*_|#[]<>".toList.all (fun d => !endsLine d) = true := rfl
    have hends : endsLine c = false := by
      simpa using List.all_eq_true.mp hall c (List.contains_iff_mem.mp hspecial)
    have hreturn : c ≠ '\r' := by
      rintro rfl
      cases hends
    rw [if_neg hreturn, List.filter_cons_of_neg (by decide),
      List.filter_cons_of_neg (by simp [hends]), List.filter_nil]
  · split
    · next hfeed => subst hfeed; rfl
    · next hfeed => by_cases hreturn : c = '\r' <;> simp [endsLine, hfeed, hreturn]

/-- **Of the line endings of a text its carriage returns are written**, and nothing else. -/
theorem filter_endsLine_escape (text : String) :
    (escape text).filter endsLine = returns text := by
  rw [escape, returns, List.filter_flatMap]
  induction text.toList with
  | nil => rfl
  | cons c cs ih =>
    rw [List.flatMap_cons, ih, filter_endsLine_escapeChar, List.filter_cons]
    by_cases hreturn : c = '\r' <;> simp [hreturn]

theorem filter_endsLine_piece (piece : Piece) :
    piece.chars.filter endsLine = piece.text?.toList.flatMap returns := by
  cases piece with
  | marks cs whole => exact whole
  | text s =>
    rw [Piece.chars, filter_endsLine_escape]
    simp [Piece.text?]

/-- The line endings inside a line are the carriage returns of its texts. -/
theorem filter_endsLine_line (line : Line) :
    line.chars.filter endsLine = line.texts.flatMap returns := by
  rw [Line.chars, Line.texts, List.filter_flatMap]
  induction line.pieces with
  | nil => rfl
  | cons piece pieces ih =>
    rw [List.flatMap_cons, ih, filter_endsLine_piece, List.filterMap_cons]
    cases piece.text? <;> simp

theorem returns_eq_nil_iff (s : String) : returns s = [] ↔ '\r' ∉ s.toList := by
  rw [returns, List.filter_eq_nil_iff]
  simp only [beq_iff_eq]
  exact List.forall_mem_ne'

/-- A line is whole exactly if none of its texts has a carriage return. -/
theorem whole_iff (line : Line) :
    (∀ c ∈ line.chars, endsLine c = false) ↔ ∀ s ∈ line.texts, '\r' ∉ s.toList := by
  calc (∀ c ∈ line.chars, endsLine c = false) ↔ line.chars.filter endsLine = [] := by
        simp [List.filter_eq_nil_iff]
    _ ↔ ∀ s ∈ line.texts, returns s = [] := by
        rw [filter_endsLine_line, List.flatMap_eq_nil_iff]
    _ ↔ ∀ s ∈ line.texts, '\r' ∉ s.toList := by simp only [returns_eq_nil_iff]

theorem feed_not_mem_line (line : Line) : '\n' ∉ line.chars := by
  intro hfeed
  have hends : '\n' ∈ line.chars.filter endsLine := List.mem_filter.mpr ⟨hfeed, rfl⟩
  rw [filter_endsLine_line, List.mem_flatMap] at hends
  obtain ⟨s, -, hs⟩ := hends
  cases (List.mem_filter.mp hs).2

/-! ### The texts of lines -/

theorem filterMap_emphasised (run : TextRun) :
    (Piece.emphasised run).filterMap Piece.text? = [run.text] := by
  unfold Piece.emphasised
  split <;> rfl

theorem texts_header (run : TextRun) (indent : UInt32) :
    (Line.header run indent).texts = [run.text] := by
  rw [Line.texts, Line.header, List.filterMap_append, List.filterMap_append, filterMap_emphasised]
  rfl

theorem texts_row (label value : TextRun) (indent : UInt32) :
    (Line.row label value indent).texts = [label.text, value.text] := by
  rw [Line.texts, Line.row, List.filterMap_append, List.filterMap_append, List.filterMap_append,
    List.filterMap_append, filterMap_emphasised, filterMap_emphasised]
  rfl

/-- The lines of a call hold its texts. -/
theorem texts_callLines (table : TableState) (call : Call) :
    (callLines table call).flatMap Line.texts = call.texts := by
  have hparagraph (run : TextRun) :
      [⟨Piece.emphasised run⟩, Line.blank].flatMap Line.texts = [run.text] := by
    rw [List.flatMap_cons, Line.texts, filterMap_emphasised]
    rfl
  cases call with
  | paragraph role run =>
    cases role with
    | description => exact hparagraph run
    | answer => exact hparagraph run
    | _ => rfl
  | sectionHeader run shading indent =>
    rw [callLines, List.flatMap_cons, texts_header]
    split <;> rfl
  | tableRow label value indent =>
    rw [callLines, List.flatMap_append, List.flatMap_singleton, texts_row]
    split <;> rfl
  | _ => rfl

theorem texts_linesFrom (table : TableState) (calls : List Call) :
    (linesFrom table calls).flatMap Line.texts = calls.flatMap Call.texts := by
  induction calls generalizing table with
  | nil => rfl
  | cons call calls ih =>
    rw [linesFrom, List.flatMap_append, texts_callLines, ih, List.flatMap_cons]

/-! ### What is written -/

theorem escape_isEmpty (text : String) : (escape text).isEmpty = (text == "") := by
  rw [Bool.eq_iff_iff, beq_iff_eq, List.isEmpty_iff, escape, ← String.toList_eq_nil_iff]
  cases text.toList with
  | nil => exact Iff.rfl
  | cons c cs =>
    -- every character leaves one behind
    have hchar : escapeChar c ≠ [] := by
      unfold escapeChar
      split
      · simp
      · split <;> simp
    simp [hchar]

theorem chars_emphasised (run : TextRun) :
    (Piece.emphasised run).flatMap Piece.chars = emphasised run := by
  rw [Piece.emphasised, emphasised, escape_isEmpty, bne]
  split <;> simp [Piece.chars, Piece.asterisks]

theorem chars_header (run : TextRun) (indent : UInt32) :
    (Line.header run indent).chars ++ ['\n'] = headerLine (indented run indent) := by
  rw [Line.chars, Line.header, List.flatMap_append, List.flatMap_append, chars_emphasised]
  simp [headerLine, indented, Piece.chars, Piece.indentation]

theorem chars_row (label value : TextRun) (indent : UInt32) :
    (Line.row label value indent).chars ++ ['\n'] =
      tableLine (indented label indent) (emphasised value) := by
  rw [Line.chars, Line.row, List.flatMap_append, List.flatMap_append, List.flatMap_append,
    List.flatMap_append, chars_emphasised, chars_emphasised]
  simp [tableLine, indented, Piece.chars, Piece.indentation]

/-- The call is that of a footer. -/
def isFooter : Call → Bool
  | .footerImage _ => true
  | _ => false

/-- **A call is written in its lines**, each with a line feed behind it. -/
theorem ended_callLines (table : TableState) {call : Call} (h : isFooter call = false) :
    ended ((callLines table call).map Line.chars) = (emit table call).1 := by
  have hparagraph (run : TextRun) :
      ended ([⟨Piece.emphasised run⟩, Line.blank].map Line.chars) = paragraph (emphasised run) := by
    simp [ended, Line.chars, chars_emphasised, paragraph, Line.blank]
  cases call with
  | paragraph role run =>
    cases role with
    | description => exact hparagraph run
    | answer => exact hparagraph run
    | spacer => rfl
    | _ => simp [callLines, ended, Line.chars, Line.blank, Piece.chars, emit, paragraph]
  | sectionHeader run shading indent =>
    rw [callLines, List.map_cons, ended, List.flatMap_cons, chars_header, emit]
    split
    · rfl
    · exact List.append_nil _
  | tableRow label value indent =>
    rw [callLines, List.map_append, ended, List.flatMap_append, List.map_singleton,
      List.flatMap_singleton, chars_row, emit]
    split <;> rfl
  | footerImage image => cases h
  | _ => rfl

theorem ended_linesFrom (table : TableState) {calls : List Call}
    (h : calls.any isFooter = false) :
    ended ((linesFrom table calls).map Line.chars) = (emitAll table calls).flatten := by
  induction calls generalizing table with
  | nil => rfl
  | cons call calls ih =>
    rw [List.any_cons, Bool.or_eq_false_iff] at h
    rw [linesFrom, List.map_append, ended, List.flatMap_append, ← ended, ← ended,
      ended_callLines table h.1, ih _ h.2]
    rfl

end Markdown

theorem any_isFooter_bodyCalls (style : StyleSheet) (inTable : Bool) (blocks : List Block) :
    (style.bodyCalls inTable blocks).any isFooter = false := by
  induction blocks generalizing inTable with
  | nil => cases inTable <;> rfl
  | cons block blocks ih =>
    have hblock : (style.blockCalls inTable block).1.any isFooter = false := by
      cases block with
      | sectionHeader text depth =>
        cases depth <;> cases inTable <;> rfl
      | row label value depth => cases inTable <;> rfl
      | standalone label value answered => cases inTable <;> rfl
    rw [StyleSheet.bodyCalls, List.any_append, hblock, ih, Bool.or_self]

theorem any_isFooter_calls (document : Document) (style : StyleSheet) :
    (document.calls style none).any isFooter = false := by
  rw [Document.calls, List.any_append, List.any_append, any_isFooter_bodyCalls]
  cases document.description <;> rfl

/-- The Markdown of a document without a footer is that of its lines. -/
theorem ended_lines (document : Document) (style : StyleSheet) :
    ended ((document.lines style).map Line.chars) = (document.markdown style none).toList := by
  rw [Document.lines, ended_linesFrom _ (any_isFooter_calls document style), Document.markdown,
    String.toList_ofList]

/-! ### The lines of a document -/

/-- **Nothing but the carriage returns of its texts breaks a line of a document.** The line feeds of
the output stand behind the lines that the writer makes, one behind each, and the texts of these
lines are those of the document. The line endings inside a line are the carriage returns of its
texts. So all line endings are those of the writer exactly if no text has a carriage return. -/
theorem only_carriage_returns_break_lines (document : Document) (style : StyleSheet) :
    Text.splitChars '\n' (document.markdown style none).toList =
        (document.lines style).map Line.chars ++ [[]] ∧
      (document.lines style).flatMap Line.texts = document.texts style ∧
      (∀ line ∈ document.lines style,
        line.chars.filter endsLine = line.texts.flatMap returns) ∧
      ((∀ line ∈ document.lines style, ∀ c ∈ line.chars, endsLine c = false) ↔
        ∀ s ∈ document.texts style, '\r' ∉ s.toList) := by
  have htexts : (document.lines style).flatMap Line.texts = document.texts style := by
    rw [Document.lines, texts_linesFrom, texts_calls]
  refine ⟨?_, htexts, fun line _ => filter_endsLine_line line, ?_⟩
  · rw [← ended_lines]
    refine splitChars_ended ?_
    rw [List.forall_mem_map]
    exact fun line _ => feed_not_mem_line line
  · rw [← htexts, List.forall_mem_flatMap]
    exact forall₂_congr fun line _ => whole_iff line

/-- A document with an address that was typed in two lines. -/
def addressDocument : Document where
  title := "Visit"
  description := none
  blocks := [.sectionHeader "Client" 0, .row "Address" "12 Mill Lane\r\nLeeds" 1]

/-- The row of the address breaks off at a carriage return that is none of the writer's. -/
theorem typed_address_breaks_row :
    addressDocument.markdown .standard none =
        "# Visit\n\n| **Client** | |\n|---|---|\n| Address | 12 Mill Lane\r Leeds |\n\n" ∧
      ∃ line ∈ addressDocument.lines .standard, ∃ c ∈ line.chars, endsLine c = true := by
  have hany : (addressDocument.lines .standard).any (·.chars.any endsLine) = true := by decide
  obtain ⟨line, hline, hany⟩ := List.any_eq_true.mp hany
  exact ⟨by decide, line, hline, List.any_eq_true.mp hany⟩

end Questionnaire
