import Mathlib.Data.List.Forall2
import Questionnaire.Writer.Call

/-! # The groups of a written document

Between its title and its footer a document is written in groups of calls: the two paragraphs of a
standalone question, or a table, which is opened, holds one entry or more and is closed with a
spacer behind it (`Group`). Every group writes blocks that follow one another, one entry of a table
for each, and the header of a section of the top level begins a table of its own
(`Group.Writes`).

The loop over the blocks keeps a flag that says whether a table is open. What it writes from a block
on is a list of groups if none is (`WritesAll`), and else the remaining entries of the open table in
front of such a list (`WritesRest`). -/

namespace Questionnaire

/-! ### Groups of calls -/

/-- A call inside a table. -/
inductive TableEntry where
  | header (run : TextRun) (shading : String) (indent : UInt32)
  | row (label value : TextRun) (indent : UInt32)

/-- The calls that belong together: those of a standalone question or those of a table. -/
inductive Group where
  | question (label answer : TextRun)
  | table (first : TableEntry) (rest : List TableEntry) (spacer : TextRun)

/-- The call of an entry. -/
def TableEntry.call : TableEntry → Call
  | .header run shading indent => .sectionHeader run shading indent
  | .row label value indent => .tableRow label value indent

/-- The calls of a group. -/
def Group.calls : Group → List Call
  | .question label answer => [.paragraph .questionLabel label, .paragraph .answer answer]
  | .table first rest spacer =>
    .beginTable :: (first :: rest).map TableEntry.call ++ [.endTable, .paragraph .spacer spacer]

/-! ### What groups write -/

/-- The block is the header of a section of the top level. -/
def Block.IsTopHeader : Block → Prop
  | .sectionHeader _ depth => depth = 0
  | _ => False

/-- **The entry carries the texts of the block.** -/
inductive TableEntry.Shows : Block → TableEntry → Prop
  | header {text : String} {depth : Nat} {run : TextRun} {shading : String} {indent : UInt32}
    (htext : run.text = text) : Shows (.sectionHeader text depth) (.header run shading indent)
  | row {label value : String} {depth : Nat} {labelRun valueRun : TextRun} {indent : UInt32}
    (hlabel : labelRun.text = label) (hvalue : valueRun.text = value) :
    Shows (.row label value depth) (.row labelRun valueRun indent)

/-- **The group writes the blocks**: a standalone question with the placeholder for a missing
answer, or entries of a table, of which only the first may be a header of the top level. -/
inductive Group.Writes (style : StyleSheet) : List Block → Group → Prop
  | question {label value : String} {answered : Bool} {labelRun answerRun : TextRun}
    (hlabel : labelRun.text = label)
    (hanswer : answerRun.text = if answered then value else style.placeholder) :
    Writes style [.standalone label value answered] (.question labelRun answerRun)
  | table {block : Block} {blocks : List Block} {first : TableEntry} {rest : List TableEntry}
    {spacer : TextRun} (hfirst : first.Shows block)
    (hrest : List.Forall₂ (fun block entry => entry.Shows block) blocks rest)
    (htop : ∀ block ∈ blocks, ¬ block.IsTopHeader) :
    Writes style (block :: blocks) (.table first rest spacer)

/-- **The calls write the blocks in groups**, each of which writes blocks that follow one another. -/
def WritesAll (style : StyleSheet) (blocks : List Block) (calls : List Call) : Prop :=
  ∃ groups : List (List Block × Group),
    groups.flatMap (·.1) = blocks ∧ groups.flatMap (·.2.calls) = calls ∧
      ∀ group ∈ groups, group.2.Writes style group.1

/-- The calls write the blocks from inside a table: first its remaining entries and its end, and
then groups. -/
def WritesRest (style : StyleSheet) (blocks : List Block) (calls : List Call) : Prop :=
  ∃ (inside outside : List Block) (entries : List TableEntry) (after : List Call),
    blocks = inside ++ outside ∧
      calls = entries.map TableEntry.call ++ (style.closeTable ++ after) ∧
      List.Forall₂ (fun block entry => entry.Shows block) inside entries ∧
      (∀ block ∈ inside, ¬ block.IsTopHeader) ∧ WritesAll style outside after

section Steps
variable {style : StyleSheet} {blocks : List Block} {calls : List Call}

theorem writesAll_nil : WritesAll style [] [] := ⟨[], rfl, rfl, by simp⟩

theorem WritesAll.cons {group : Group} {front : List Block} (hgroup : group.Writes style front)
    (h : WritesAll style blocks calls) :
    WritesAll style (front ++ blocks) (group.calls ++ calls) := by
  obtain ⟨groups, rfl, rfl, hgroups⟩ := h
  exact ⟨(front, group) :: groups, rfl, rfl, List.forall_mem_cons.mpr ⟨hgroup, hgroups⟩⟩

/-- A table that is closed at once. -/
theorem WritesAll.close (h : WritesAll style blocks calls) :
    WritesRest style blocks (style.closeTable ++ calls) :=
  ⟨[], blocks, [], calls, rfl, rfl, .nil, by simp, h⟩

/-- One more entry of the open table. -/
theorem WritesRest.cons {block : Block} {entry : TableEntry} (hentry : entry.Shows block)
    (htop : ¬ block.IsTopHeader) (h : WritesRest style blocks calls) :
    WritesRest style (block :: blocks) (entry.call :: calls) := by
  obtain ⟨inside, outside, entries, after, rfl, rfl, hentries, hinside, hafter⟩ := h
  exact ⟨block :: inside, outside, entry :: entries, after, rfl, rfl, .cons hentry hentries,
    List.forall_mem_cons.mpr ⟨htop, hinside⟩, hafter⟩

/-- A table is opened by its first entry. -/
theorem WritesRest.open {block : Block} {entry : TableEntry} (hentry : entry.Shows block)
    (h : WritesRest style blocks calls) :
    WritesAll style (block :: blocks) (.beginTable :: entry.call :: calls) := by
  obtain ⟨inside, outside, entries, after, rfl, rfl, hentries, hinside, hafter⟩ := h
  have htable : Group.Writes style (block :: inside)
      (.table entry entries (style.run "" style.description)) := .table hentry hentries hinside
  simpa [Group.calls, StyleSheet.closeTable] using hafter.cons htable

end Steps

/-! ### The loop over the blocks -/

namespace StyleSheet

variable (style : StyleSheet) (blocks : List Block)

/-- The entry of a section. -/
def headerEntry (text : String) (depth : Nat) : TableEntry :=
  .header (style.run text (style.sectionHeader depth)) (style.sectionShading depth)
    (style.indent depth)

/-- The entry of a row. -/
def rowEntry (label value : String) (depth : Nat) : TableEntry :=
  .row (style.run label (style.rowLabel depth)) (style.run value (style.rowValue depth))
    (style.indent depth)

/-- The group of a standalone question. -/
def questionGroup (label value : String) (answered : Bool) : Group :=
  .question (style.run label style.standaloneLabel)
    (style.run (if answered then value else style.placeholder) (style.standaloneAnswer answered))

/-- A section of the top level ends the open table. -/
theorem bodyCalls_true_topHeader (text : String) :
    style.bodyCalls true (.sectionHeader text 0 :: blocks) =
      style.closeTable ++ style.bodyCalls false (.sectionHeader text 0 :: blocks) := by
  simp [bodyCalls, blockCalls]

theorem bodyCalls_true_header (text : String) {depth : Nat} (h : depth ≠ 0) :
    style.bodyCalls true (.sectionHeader text depth :: blocks) =
      (style.headerEntry text depth).call :: style.bodyCalls true blocks := by
  simp [bodyCalls, blockCalls, h, headerCall, headerEntry, TableEntry.call]

/-- A standalone question ends the open table. -/
theorem bodyCalls_true_standalone (label value : String) (answered : Bool) :
    style.bodyCalls true (.standalone label value answered :: blocks) =
      style.closeTable ++ style.bodyCalls false (.standalone label value answered :: blocks) := by
  simp [bodyCalls, blockCalls]

/-- **What the loop writes** outside a table and inside one. -/
theorem writes_bodyCalls :
    WritesAll style blocks (style.bodyCalls false blocks) ∧
      WritesRest style blocks (style.bodyCalls true blocks) := by
  induction blocks with
  | nil => exact ⟨writesAll_nil, writesAll_nil.close⟩
  | cons block blocks ih =>
    obtain ⟨hall, hrest⟩ := ih
    cases block with
    | sectionHeader text depth =>
      have hshows : (style.headerEntry text depth).Shows (.sectionHeader text depth) := .header rfl
      have hopen : WritesAll style (.sectionHeader text depth :: blocks)
          (style.bodyCalls false (.sectionHeader text depth :: blocks)) := hrest.open hshows
      refine ⟨hopen, ?_⟩
      by_cases hdepth : depth = 0
      · subst hdepth
        rw [bodyCalls_true_topHeader]
        exact hopen.close
      · rw [bodyCalls_true_header style blocks text hdepth]
        exact hrest.cons hshows hdepth
    | row label value depth =>
      have hshows : (style.rowEntry label value depth).Shows (.row label value depth) := .row rfl rfl
      exact ⟨hrest.open hshows, hrest.cons hshows id⟩
    | standalone label value answered =>
      have hwrites : (style.questionGroup label value answered).Writes style
          [.standalone label value answered] := .question rfl rfl
      have hfront : WritesAll style (.standalone label value answered :: blocks)
          (style.bodyCalls false (.standalone label value answered :: blocks)) := hall.cons hwrites
      refine ⟨hfront, ?_⟩
      rw [bodyCalls_true_standalone]
      exact hfront.close

end StyleSheet

/-! ### The calls without the frames of tables -/

/-- The call opens or closes a table or stands behind one. -/
def Call.isFrame : Call → Bool
  | .beginTable | .endTable | .paragraph .spacer _ => true
  | _ => false

/-- **The calls stand for the block**: one entry of a table, or label and answer. -/
inductive Block.StandsFor (style : StyleSheet) : Block → List Call → Prop
  | entry {block : Block} {entry : TableEntry} (h : entry.Shows block) :
    StandsFor style block [entry.call]
  | question {block : Block} {labelRun answerRun : TextRun}
    (h : (Group.question labelRun answerRun).Writes style [block]) :
    StandsFor style block [.paragraph .questionLabel labelRun, .paragraph .answer answerRun]

theorem filter_map_call (entries : List TableEntry) :
    (entries.map TableEntry.call).filter (fun call => !call.isFrame) =
      entries.map TableEntry.call := by
  rw [List.filter_eq_self]
  intro call hcall
  obtain ⟨entry, -, rfl⟩ := List.mem_map.mp hcall
  cases entry <;> rfl

theorem Group.filter_calls_table (first : TableEntry) (rest : List TableEntry) (spacer : TextRun) :
    (Group.table first rest spacer).calls.filter (fun call => !call.isFrame) =
      (first :: rest).map TableEntry.call := by
  have hfront : (Group.table first rest spacer).calls =
      [.beginTable] ++ (first :: rest).map TableEntry.call ++
        [.endTable, .paragraph .spacer spacer] := rfl
  rw [hfront, List.filter_append, List.filter_append, filter_map_call]
  exact List.append_nil _

/-- The calls of a group stand for its blocks one by one. -/
theorem Group.Writes.exists_parts {style : StyleSheet} {blocks : List Block} {group : Group}
    (h : group.Writes style blocks) : ∃ parts : List (List Call),
      List.Forall₂ (Block.StandsFor style) blocks parts ∧
        group.calls.filter (fun call => !call.isFrame) = parts.flatten := by
  cases h with
  | question hlabel hanswer => exact ⟨[_], .cons (.question (.question hlabel hanswer)) .nil, rfl⟩
  | @table block blocks first rest spacer hfirst hrest htop =>
    refine ⟨(first :: rest).map fun entry => [entry.call], ?_, ?_⟩
    · rw [List.forall₂_map_right_iff]
      exact (List.Forall₂.cons hfirst hrest).imp fun _ _ => .entry
    · rw [filter_calls_table, ← List.flatMap_def, List.map_eq_flatMap]

theorem exists_parts_of_groups {style : StyleSheet} {groups : List (List Block × Group)}
    (h : ∀ group ∈ groups, group.2.Writes style group.1) : ∃ parts : List (List Call),
      List.Forall₂ (Block.StandsFor style) (groups.flatMap (·.1)) parts ∧
        (groups.flatMap (·.2.calls)).filter (fun call => !call.isFrame) = parts.flatten := by
  induction groups with
  | nil => exact ⟨[], .nil, rfl⟩
  | cons group groups ih =>
    rw [List.forall_mem_cons] at h
    obtain ⟨first, hfirst, hcalls⟩ := h.1.exists_parts
    obtain ⟨parts, hparts, hrest⟩ := ih h.2
    refine ⟨first ++ parts, List.rel_append hfirst hparts, ?_⟩
    rw [List.flatMap_cons, List.filter_append, hcalls, hrest, List.flatten_append]

/-! ### Documents -/

/-- A writer that refuses nothing is handed all calls. -/
theorem feed_recording_none (calls before : List Call) :
    (Writer.recording none).feed before calls = ⟨calls.reverse ++ before, none⟩ := by
  induction calls generalizing before with
  | nil => rfl
  | cons call calls ih =>
    rw [List.reverse_cons, List.append_assoc]
    exact ih (call :: before)

/-- **Every document is written in well-formed groups, and in full.** A writer that refuses nothing
gets the title, the description if there is one, the calls of groups, and the footer if there is
one. The groups write the blocks of the document, each some that follow one another; and without the
frames of the tables their calls stand for the blocks one by one. -/
theorem document_is_written_in_groups (document : Document) (style : StyleSheet)
    (footer : Option FooterImage) :
    ∃ groups : List (List Block × Group),
      ((Writer.recording none).write [] document style footer).refusal = none ∧
      ((Writer.recording none).write [] document style footer).state.reverse =
        [Call.paragraph .title (style.run document.title style.title)] ++
          (document.description.map fun text =>
            Call.paragraph .description (style.run text style.description)).toList ++
          groups.flatMap (·.2.calls) ++ (footer.map Call.footerImage).toList ∧
      groups.flatMap (·.1) = document.blocks ∧
      (∀ group ∈ groups, group.2.Writes style group.1) ∧
      ∃ parts : List (List Call), List.Forall₂ (Block.StandsFor style) document.blocks parts ∧
        (groups.flatMap (·.2.calls)).filter (fun call => !call.isFrame) = parts.flatten := by
  obtain ⟨groups, hblocks, hcalls, hwrites⟩ := (style.writes_bodyCalls document.blocks).1
  refine ⟨groups, ?_, ?_, hblocks, hwrites, ?_⟩
  · rw [Writer.write, feed_recording_none]
  · rw [Writer.write, feed_recording_none, List.append_nil, List.reverse_reverse, hcalls,
      Document.calls]
  · rw [← hblocks]
    exact exists_parts_of_groups hwrites

end Questionnaire
