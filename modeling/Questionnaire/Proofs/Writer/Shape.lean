import Questionnaire.Proofs.Files.Path
import Questionnaire.Proofs.Writer.Cells
import Questionnaire.Proofs.Writer.Groups

/-! # The shape of tables

Between the calls that open and close it, a table is written in lines: its header, the delimiter,
and a line for each further entry, with an empty header in front where a row comes first
(`TableEntry.frontLines`, `flatten_emitAll_table`). Whatever the texts of its entries are, each line
has two cells, and none but the second looks like the delimiter (`IsTable`). In a document every
call that opens a table is followed by the entries of blocks that follow one another, and by the end
of the table (`exists_table_of_groups`), so that all its tables have this shape
(`tables_keep_their_shape`). -/

namespace Questionnaire

/-! ### Lines -/

namespace Markdown

/-- The line between header and body, without its line feed. -/
def delimiter : List Char := "|---|---|".toList

/-- The header of a table that starts with a row, without its line feed. -/
def blankHeader : List Char := "| | |".toList

/-- Lines, each with a line feed at its end. -/
def ended (lines : List (List Char)) : List Char := lines.flatMap fun line => line ++ ['\n']

theorem splitChars_ended {lines : List (List Char)} (h : ∀ line ∈ lines, '\n' ∉ line) :
    Text.splitChars '\n' (ended lines) = lines ++ [[]] := by
  induction lines with
  | nil => rfl
  | cons line lines ih =>
    rw [List.forall_mem_cons] at h
    have hcons : ended (line :: lines) = line ++ '\n' :: ended lines := by
      simp [ended]
    rw [hcons, Text.splitChars_append, Text.splitChars_of_not_mem h.1, ih h.2]
    rfl

/-- **The text is a line of a table** with two cells: three of its pipes are not escaped. -/
structure IsLine (line : List Char) : Prop where
  oneLine : '\n' ∉ line
  pipes : openPipes [] line = 3

theorem isLine_delimiter : IsLine delimiter := ⟨by decide, by decide⟩

theorem isLine_blankHeader : IsLine blankHeader := ⟨by decide, by decide⟩

/-- A cell is passed over in counting pipes. -/
theorem IsCell.openPipes_append {cell before : List Char} (h : IsCell cell)
    (hbefore : backslashes before % 2 = 0) (back : List Char) :
    openPipes before (cell ++ back) = openPipes (cell.reverse ++ before) back := by
  rw [Markdown.openPipes_append, h.pipes before hbefore, Nat.zero_add]

/-- A pipe behind a blank ends a cell, whatever the cell ends with. -/
theorem openPipes_fence (before back : List Char) :
    openPipes before (' ' :: '|' :: back) = openPipes ('|' :: ' ' :: before) back + 1 := by
  simp [openPipes, backslashes, Nat.add_comm]

theorem openPipes_front (back : List Char) :
    openPipes [] ('|' :: ' ' :: back) = openPipes [' ', '|'] back + 1 := by
  simp [openPipes, backslashes, Nat.add_comm]

theorem isLine_header {cell : List Char} (h : IsCell cell) :
    IsLine ("| ".toList ++ cell ++ " | |".toList) where
  oneLine := by simp [h.oneLine]
  pipes := by
    have hline : "| ".toList ++ cell ++ " | |".toList =
        '|' :: ' ' :: (cell ++ [' ', '|', ' ', '|']) := by
      rw [List.append_assoc]
      rfl
    rw [hline, openPipes_front, h.openPipes_append (by decide), openPipes_fence, openPipes_fence]
    rfl

theorem isLine_row {left right : List Char} (hleft : IsCell left) (hright : IsCell right) :
    IsLine ("| ".toList ++ left ++ " | ".toList ++ right ++ " |".toList) where
  oneLine := by simp [hleft.oneLine, hright.oneLine]
  pipes := by
    have hline : "| ".toList ++ left ++ " | ".toList ++ right ++ " |".toList =
        '|' :: ' ' :: (left ++ ' ' :: '|' :: ([' '] ++ (right ++ [' ', '|']))) := by
      simp only [List.append_assoc]
      rfl
    have hblank : IsCell [' '] := isCell_char (by decide)
    rw [hline, openPipes_front, hleft.openPipes_append (by decide), openPipes_fence,
      hblank.openPipes_append rfl, hright.openPipes_append rfl, openPipes_fence]
    rfl

end Markdown

open Markdown

/-! ### The lines of entries -/

namespace TableEntry

/-- The line of an entry, without its line feed. -/
def line : TableEntry → List Char
  | .header run _ indent => "| ".toList ++ indented run indent ++ " | |".toList
  | .row label value indent =>
    "| ".toList ++ indented label indent ++ " | ".toList ++ emphasised value ++ " |".toList

/-- The lines of a table up to its first entry, or up to the delimiter if that comes later. -/
def frontLines : TableEntry → List (List Char)
  | .header run shading indent => [(header run shading indent).line, delimiter]
  | .row label value indent => [blankHeader, delimiter, (row label value indent).line]

theorem isLine_line (entry : TableEntry) : IsLine entry.line := by
  cases entry with
  | header run shading indent => exact isLine_header (isCell_indented run indent)
  | row label value indent =>
    exact isLine_row (isCell_indented label indent) (isCell_emphasised value)

/-- A blank stands behind the first pipe of an entry. -/
theorem line_ne_delimiter (entry : TableEntry) : entry.line ≠ delimiter := by
  intro h
  have hblank : entry.line[1]? = some ' ' := by
    cases entry with
    | header run shading indent => rfl
    | row label value indent => rfl
  rw [h] at hblank
  revert hblank
  decide

/-! ### What is written for entries -/

theorem headerLine_eq (run : TextRun) (shading : String) (indent : UInt32) :
    headerLine (indented run indent) = (header run shading indent).line ++ ['\n'] := by
  simp [headerLine, line]

theorem tableLine_eq (label value : TextRun) (indent : UInt32) :
    tableLine (indented label indent) (emphasised value) =
      (row label value indent).line ++ ['\n'] := by
  simp [tableLine, line]

/-- An entry behind the header. -/
theorem emit_call (entry : TableEntry) :
    emit ⟨true, true⟩ entry.call = (entry.line ++ ['\n'], ⟨true, true⟩) := by
  cases entry with
  | header run shading indent =>
    rw [← headerLine_eq]
    rfl
  | row label value indent =>
    rw [← tableLine_eq]
    rfl

/-- The first entry of a table. -/
theorem emit_call_first (entry : TableEntry) :
    emit ⟨true, false⟩ entry.call = (ended entry.frontLines, ⟨true, true⟩) := by
  have hdelimiter : delimiterLine = delimiter ++ ['\n'] := rfl
  have hblank : emptyHeader = blankHeader ++ ['\n'] := rfl
  cases entry with
  | header run shading indent =>
    have hlines : headerLine (indented run indent) ++ delimiterLine =
        ended (header run shading indent).frontLines := by
      rw [headerLine_eq run shading, hdelimiter]
      simp [ended, frontLines]
    rw [← hlines]
    rfl
  | row label value indent =>
    have hlines : emptyHeader ++ delimiterLine ++
        tableLine (indented label indent) (emphasised value) =
          ended (row label value indent).frontLines := by
      rw [tableLine_eq, hdelimiter, hblank]
      simp [ended, frontLines]
    rw [← hlines]
    rfl

end TableEntry

theorem flatten_emitAll_entries (entries : List TableEntry) :
    (emitAll ⟨true, true⟩ (entries.map TableEntry.call)).flatten =
      ended (entries.map TableEntry.line) := by
  induction entries with
  | nil => rfl
  | cons entry entries ih =>
    rw [List.map_cons, emitAll, entry.emit_call]
    change entry.line ++ ['\n'] ++ (emitAll ⟨true, true⟩ (entries.map TableEntry.call)).flatten = _
    rw [ih]
    rfl

/-- **What is written inside a table**, whatever its entries are. -/
theorem flatten_emitAll_table (first : TableEntry) (rest : List TableEntry) :
    (emitAll ⟨true, false⟩ ((first :: rest).map TableEntry.call)).flatten =
      ended (first.frontLines ++ rest.map TableEntry.line) := by
  rw [List.map_cons, emitAll, first.emit_call_first]
  change ended first.frontLines ++
    (emitAll ⟨true, true⟩ (rest.map TableEntry.call)).flatten = _
  rw [flatten_emitAll_entries, ended, ended, ended, List.flatMap_append]

/-! ### What is written up to a call -/

namespace Markdown

/-- The table that is open after some calls. -/
def tableAfter (table : TableState) (calls : List Call) : TableState :=
  calls.foldl (fun table call => (emit table call).2) table

theorem emitAll_append (table : TableState) (front back : List Call) :
    emitAll table (front ++ back) =
      emitAll table front ++ emitAll (tableAfter table front) back := by
  induction front generalizing table with
  | nil => rfl
  | cons call front ih =>
    rw [List.cons_append, emitAll, emitAll]
    exact congrArg _ (ih (emit table call).2)

/-- The Markdown of some calls, made from the start. -/
def written (calls : List Call) : List Char := (emitAll .start calls).flatten

theorem written_append (front back : List Call) :
    written (front ++ back) =
      written front ++ (emitAll (tableAfter .start front) back).flatten := by
  rw [written, emitAll_append, List.flatten_append, written]

/-- What is written behind the begin of a table does not depend on what comes in front of it. -/
theorem written_table (before inside : List Call) :
    written (before ++ .beginTable :: inside) =
      written (before ++ [.beginTable]) ++ (emitAll ⟨true, false⟩ inside).flatten := by
  have hopened : tableAfter .start (before ++ [.beginTable]) = ⟨true, false⟩ := by
    rw [tableAfter, List.foldl_append]
    rfl
  rw [List.append_cons, written_append, hopened]

end Markdown

/-! ### The text of a table -/

/-- The block is a row. -/
def Block.isRow : Block → Bool
  | .row _ _ _ => true
  | _ => false

/-- **The text is a table of the blocks**: a header, the delimiter and further lines, with one line
for each block besides the delimiter, and an empty header in front if a row comes first. No other
line looks like the delimiter, and every line has two cells. -/
structure IsTable (blocks : List Block) (header : List Char) (body : List (List Char))
    (text : List Char) : Prop where
  lines : Text.splitChars '\n' text = header :: delimiter :: body ++ [[]]
  count : (header :: body).length = blocks.length + if blocks.head?.any Block.isRow then 1 else 0
  blank : blocks.head?.any Block.isRow = true → header = blankHeader
  unique : ∀ line ∈ header :: body, line ≠ delimiter
  pipes : ∀ line ∈ header :: delimiter :: body, openPipes [] line = 3

theorem isTable_of_lines {blocks : List Block} {header : List Char} {body : List (List Char)}
    (hlines : ∀ line ∈ header :: body, IsLine line ∧ line ≠ delimiter)
    (hcount : (header :: body).length =
      blocks.length + if blocks.head?.any Block.isRow then 1 else 0)
    (hblank : blocks.head?.any Block.isRow = true → header = blankHeader) :
    IsTable blocks header body (ended (header :: delimiter :: body)) := by
  have hall : ∀ line ∈ header :: delimiter :: body, IsLine line := by
    simp only [List.forall_mem_cons] at hlines ⊢
    exact ⟨hlines.1.1, isLine_delimiter, fun line hline => (hlines.2 line hline).1⟩
  exact
    { lines := splitChars_ended fun line hline => (hall line hline).oneLine
      count := hcount
      blank := hblank
      unique := fun line hline => (hlines line hline).2
      pipes := fun line hline => (hall line hline).pipes }

/-- **The entries of some blocks are written as a table of them.** -/
theorem exists_isTable {blocks : List Block} {entries : List TableEntry} (hnonempty : blocks ≠ [])
    (hshows : List.Forall₂ (fun block entry => entry.Shows block) blocks entries) :
    ∃ header body, IsTable blocks header body
      (emitAll ⟨true, false⟩ (entries.map TableEntry.call)).flatten := by
  have hlines : ∀ line ∈ entries.map TableEntry.line, IsLine line ∧ line ≠ delimiter := by
    rw [List.forall_mem_map]
    exact fun entry _ => ⟨entry.isLine_line, entry.line_ne_delimiter⟩
  have hlength : (entries.map TableEntry.line).length = blocks.length := by
    rw [List.length_map, hshows.length_eq]
  cases hshows with
  | nil => exact absurd rfl hnonempty
  | @cons block first blocks rest hfirst hrest =>
    rw [flatten_emitAll_table]
    cases hfirst with
    | header htext =>
      exact ⟨_, rest.map TableEntry.line, isTable_of_lines hlines hlength fun h => by cases h⟩
    | row hlabel hvalue =>
      have hblank : IsLine blankHeader ∧ blankHeader ≠ delimiter := ⟨isLine_blankHeader, by decide⟩
      refine ⟨blankHeader, (_ :: rest).map TableEntry.line,
        isTable_of_lines (List.forall_mem_cons.mpr ⟨hblank, hlines⟩) ?_ fun _ => rfl⟩
      rw [List.length_cons, hlength]
      rfl

/-! ### The tables of a document -/

/-- The calls in front of those for the blocks. -/
def Document.openingCalls (document : Document) (style : StyleSheet) : List Call :=
  [.paragraph .title (style.run document.title style.title)] ++
    (document.description.map fun text =>
      Call.paragraph .description (style.run text style.description)).toList

/-- **A table begins between the calls** `before` and `tail`, among those that write `blocks`: its
entries follow, and its end. They show the blocks `held`, which stand one after another behind those
that `before` writes. -/
structure TableBetween (style : StyleSheet) (blocks : List Block) (before tail : List Call)
    (held : List Block) (entries : List TableEntry) : Prop where
  nonempty : held ≠ []
  shows : List.Forall₂ (fun block entry => entry.Shows block) held entries
  follows : ∃ front back, blocks = front ++ held ++ back ∧ WritesAll style front before
  ends : ∃ after, tail = entries.map TableEntry.call ++ .endTable :: after

theorem exists_of_append_eq {front back before tail : List Call} {call : Call}
    (hfront : call ∉ front) (h : front ++ back = before ++ call :: tail) :
    ∃ more, before = front ++ more ∧ back = more ++ call :: tail := by
  rcases List.append_eq_append_iff.mp h with hmore | ⟨more, rfl, hmore⟩
  · exact hmore
  · cases more with
    | nil => exact ⟨[], by simp, hmore.symm⟩
    | cons next more =>
      obtain ⟨rfl, -⟩ := List.cons.inj hmore
      exact absurd (by simp) hfront

theorem beginTable_not_mem_entries (entries : List TableEntry) (spacer : TextRun) :
    .beginTable ∉ entries.map TableEntry.call ++ [.endTable, .paragraph .spacer spacer] := by
  rw [List.mem_append, List.mem_map, not_or]
  refine ⟨?_, by simp⟩
  rintro ⟨entry, -, hentry⟩
  cases entry <;> cases hentry

/-- A group in front leaves a table where it is. -/
theorem TableBetween.cons {style : StyleSheet} {front blocks held : List Block} {group : Group}
    {before tail : List Call} {entries : List TableEntry} (hgroup : group.Writes style front)
    (h : TableBetween style blocks before tail held entries) :
    TableBetween style (front ++ blocks) (group.calls ++ before) tail held entries := by
  obtain ⟨hnonempty, hshows, ⟨others, back, rfl, hothers⟩, hends⟩ := h
  exact ⟨hnonempty, hshows, ⟨front ++ others, back, by simp, hothers.cons hgroup⟩, hends⟩

/-- **Every call that opens a table does so in front of the entries of some blocks.** -/
theorem exists_table_of_groups {style : StyleSheet} {back tail : List Call}
    (hback : .beginTable ∉ back) (groups : List (List Block × Group)) : ∀ before : List Call,
      (∀ group ∈ groups, group.2.Writes style group.1) →
      groups.flatMap (·.2.calls) ++ back = before ++ .beginTable :: tail →
      ∃ held entries, TableBetween style (groups.flatMap (·.1)) before tail held entries := by
  induction groups with
  | nil =>
    rintro before - h
    rw [List.flatMap_nil, List.nil_append] at h
    exact absurd (by simp [h]) hback
  | cons group groups ih =>
    obtain ⟨front, group⟩ := group
    intro before hgroups h
    obtain ⟨hgroup, hgroups⟩ := List.forall_mem_cons.mp hgroups
    rw [List.flatMap_cons, List.append_assoc] at h
    -- the table may belong to a later group, behind all calls of this one
    have hlater : ∀ more, before = group.calls ++ more →
        groups.flatMap (·.2.calls) ++ back = more ++ .beginTable :: tail →
        ∃ held entries,
          TableBetween style (front ++ groups.flatMap (·.1)) before tail held entries := by
      rintro more rfl hmore
      obtain ⟨held, entries, htable⟩ := ih more hgroups hmore
      exact ⟨held, entries, htable.cons hgroup⟩
    cases hgroup with
    | question hlabel hanswer =>
      obtain ⟨more, hbefore, hmore⟩ := exists_of_append_eq (by simp [Group.calls]) h
      exact hlater more hbefore hmore
    | @table block blocks first rest spacer hfirst hrest htop =>
      cases before with
      | nil =>
        obtain rfl := (List.cons.inj h).2
        exact ⟨block :: blocks, first :: rest,
          { nonempty := by simp
            shows := .cons hfirst hrest
            follows := ⟨[], groups.flatMap (·.1), rfl, writesAll_nil⟩
            ends := ⟨.paragraph .spacer spacer :: (groups.flatMap (·.2.calls) ++ back), by simp⟩ }⟩
      | cons call before =>
        obtain ⟨rfl, hinside⟩ := List.cons.inj h
        obtain ⟨more, rfl, hmore⟩ :=
          exists_of_append_eq (beginTable_not_mem_entries (first :: rest) spacer) hinside
        exact hlater more rfl hmore

/-- **The tables of a document keep their shape, whatever its texts are.** Let a call open a table.
The calls in front of it are those of title and description and of some blocks, and those behind it
are the entries of the blocks that come next, and the end of the table. What is written from the
begin to the end of the table is a table of these blocks, and an empty line stands behind it. -/
theorem tables_keep_their_shape (document : Document) (style : StyleSheet)
    (footer : Option FooterImage) (before tail : List Call)
    (hcalls : document.calls style footer = before ++ .beginTable :: tail) :
    ∃ (calls : List Call) (held : List Block) (entries : List TableEntry) (header : List Char)
        (body : List (List Char)) (text : List Char),
      before = document.openingCalls style ++ calls ∧
      TableBetween style document.blocks calls tail held entries ∧
      written (before ++ .beginTable :: entries.map TableEntry.call) =
        written (before ++ [.beginTable]) ++ text ∧
      (∃ rest, (document.markdown style footer).toList =
        written (before ++ [.beginTable]) ++ text ++ '\n' :: rest) ∧
      IsTable held header body text := by
  have hopening : .beginTable ∉ document.openingCalls style := by
    unfold Document.openingCalls
    cases document.description <;> simp
  have hfooter : .beginTable ∉ (footer.map Call.footerImage).toList := by
    cases footer <;> simp
  have hsplit : document.openingCalls style ++
      (style.bodyCalls false document.blocks ++ (footer.map Call.footerImage).toList) =
        before ++ .beginTable :: tail := by
    rw [← hcalls, Document.calls, List.append_assoc]
    rfl
  obtain ⟨calls, hbefore, hbody⟩ := exists_of_append_eq hopening hsplit
  obtain ⟨groups, hblocks, hgroups, hwrites⟩ := (style.writes_bodyCalls document.blocks).1
  rw [← hgroups] at hbody
  obtain ⟨held, entries, htable⟩ := exists_table_of_groups hfooter groups calls hwrites hbody
  rw [hblocks] at htable
  obtain ⟨header, body, hshape⟩ := exists_isTable htable.nonempty htable.shows
  have hwritten := written_table before (entries.map TableEntry.call)
  refine ⟨calls, held, entries, header, body, _, hbefore, htable, hwritten, ?_, hshape⟩
  obtain ⟨after, rfl⟩ := htable.ends
  have hmarkdown : (document.markdown style footer).toList =
      written (before ++ .beginTable :: entries.map TableEntry.call ++ .endTable :: after) := by
    rw [Document.markdown, String.toList_ofList, hcalls, List.append_assoc]
    rfl
  rw [hmarkdown, written_append, hwritten]
  exact ⟨_, rfl⟩

/-- A document with two tables. Its texts hold pipes behind backslashes, line feeds, and what looks
like a delimiter. -/
def edgedDocument : Document where
  title := "Notes"
  description := none
  blocks := [.sectionHeader "\\" 0, .sectionHeader "\\|" 0, .row "a\\\\|b" "c\n|---|---|\n" 1]

/-- The second table of the document. -/
theorem tables_keep_their_shape_edged :
    ∃ (calls : List Call) (held : List Block) (entries : List TableEntry) (header : List Char)
        (body : List (List Char)) (text : List Char),
      (edgedDocument.calls .standard none).take 5 = edgedDocument.openingCalls .standard ++ calls ∧
      TableBetween .standard edgedDocument.blocks calls
        ((edgedDocument.calls .standard none).drop 6) held entries ∧
      written ((edgedDocument.calls .standard none).take 5 ++
          .beginTable :: entries.map TableEntry.call) =
        written ((edgedDocument.calls .standard none).take 5 ++ [.beginTable]) ++ text ∧
      (∃ rest, (edgedDocument.markdown .standard none).toList =
        written ((edgedDocument.calls .standard none).take 5 ++ [.beginTable]) ++ text ++
          '\n' :: rest) ∧
      IsTable held header body text :=
  tables_keep_their_shape edgedDocument .standard none _ _ rfl

end Questionnaire
