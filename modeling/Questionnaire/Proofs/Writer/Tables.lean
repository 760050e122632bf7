import Questionnaire.Proofs.Document.Agreement
import Questionnaire.Proofs.Outline.Depth
import Questionnaire.Proofs.Visibility.Chain
import Questionnaire.Proofs.Writer.Groups

/-! # A table for each section of the top level

Any list of blocks can be written, and a row or a nested header that stands outside a section opens
a table of its own. The blocks of a compiled document need none of these tables: their depths are
those of the walk, so that they form an outline (`ProperOutline`, `properOutline_compile`). In an
outline what stands outside a table is a standalone question or begins a section of the top level.
So a table is opened for each such section, by its header, and for nothing else
(`document_is_outline`). -/

namespace Questionnaire

open Outline

/-! ### Outlines -/

/-- The block is the header of a section, of any depth. -/
def Block.IsHeader : Block → Prop
  | .sectionHeader _ _ => True
  | _ => False

/-- **One block may come after another** if it stands no deeper, or one level below it and the other
is a header. -/
def Block.MayFollow (block next : Block) : Prop :=
  next.depth ≤ block.depth ∨ next.depth = block.depth + 1 ∧ block.IsHeader

/-- **The blocks form an outline**: the first one stands at the top level, each other one may come
after the one before it, and rows stand below the top level. -/
structure ProperOutline (blocks : List Block) : Prop where
  first : ∀ block ∈ blocks.head?, block.depth = 0
  follows : blocks.IsChain Block.MayFollow
  rows : ∀ label value depth, .row label value depth ∈ blocks → 1 ≤ depth

section Blocks
variable (node : Node) (answers : Answers) (labels : Labels)

theorem depth_block : (node.block answers labels).depth = node.depth := by
  unfold Node.block
  by_cases hsection : node.question.isSection = true
  · rw [if_pos hsection]
    rfl
  · rw [if_neg hsection]
    by_cases hdepth : node.depth = 0
    · rw [if_pos hdepth, hdepth]
      rfl
    · rw [if_neg hdepth]
      rfl

theorem isHeader_block (h : node.question.isSection = true) :
    (node.block answers labels).IsHeader := by
  unfold Node.block
  rw [if_pos h]
  trivial

theorem one_le_of_block_eq_row {label value : String} {depth : Nat}
    (h : node.block answers labels = .row label value depth) : 1 ≤ depth := by
  unfold Node.block at h
  by_cases hsection : node.question.isSection = true
  · rw [if_pos hsection] at h
    cases h
  · rw [if_neg hsection] at h
    by_cases hdepth : node.depth = 0
    · rw [if_pos hdepth] at h
      cases h
    · rw [if_neg hdepth] at h
      cases h
      exact Nat.one_le_iff_ne_zero.mpr hdepth

end Blocks

/-- **The blocks of a compiled document form an outline.** -/
theorem properOutline_compile (form : Form) (answers : Answers) :
    ProperOutline (form.compile answers).blocks := by
  obtain ⟨hfirst, hchain⟩ := isChain_walk form.questions fun q => isVisible q form.rules answers
  rw [← visibleNodes_eq] at hfirst hchain
  unfold Form.compile
  refine ⟨fun block hblock => ?_, ?_, fun label value depth hrow => ?_⟩
  · rw [List.head?_map, Option.mem_def, Option.map_eq_some_iff] at hblock
    obtain ⟨node, hnode, rfl⟩ := hblock
    rw [depth_block]
    exact hfirst node hnode
  · rw [List.isChain_map]
    refine hchain.imp fun node next hnext => ?_
    unfold Block.MayFollow
    rw [depth_block, depth_block]
    exact hnext.imp_right fun ⟨hdepth, hsection⟩ => ⟨hdepth, isHeader_block node _ _ hsection⟩
  · obtain ⟨node, -, hnode⟩ := List.mem_map.mp hrow
    exact one_le_of_block_eq_row node _ _ hnode

/-! ### Tables -/

/-- The texts of the headers of the top level. -/
def topHeaders (blocks : List Block) : List String :=
  blocks.filterMap fun
    | .sectionHeader text 0 => some text
    | _ => none

/-- For each table that the calls open, the first call inside it, if there is one. -/
def tableFronts : List Call → List (Option Call)
  | [] => []
  | call :: calls =>
    if call = .beginTable then calls.head? :: tableFronts calls else tableFronts calls

theorem length_tableFronts (calls : List Call) :
    (tableFronts calls).length = calls.count .beginTable := by
  induction calls with
  | nil => rfl
  | cons call calls ih =>
    rw [tableFronts]
    by_cases h : call = .beginTable
    · rw [if_pos h, List.length_cons, ih, h, List.count_cons_self]
    · rw [if_neg h, ih, List.count_cons_of_ne h]

theorem tableFronts_append {front : List Call} (h : .beginTable ∉ front) (calls : List Call) :
    tableFronts (front ++ calls) = tableFronts calls := by
  induction front with
  | nil => rfl
  | cons call front ih =>
    rw [List.mem_cons, not_or] at h
    rw [List.cons_append, tableFronts, if_neg (Ne.symm h.1), ih h.2]

/-! ### Outlines on the way -/

/-- The rest of an outline, from inside a table or from outside of all tables: outside it begins at
the top level. -/
structure GoesOn (inTable : Bool) (blocks : List Block) : Prop where
  outside : inTable = false → ∀ block ∈ blocks.head?, block.depth = 0
  follows : blocks.IsChain Block.MayFollow
  rows : ∀ label value depth, .row label value depth ∈ blocks → 1 ≤ depth

namespace GoesOn

variable {inTable : Bool} {block : Block} {blocks : List Block}

/-- What comes after a block goes on inside a table. -/
theorem inside (h : GoesOn inTable (block :: blocks)) : GoesOn true blocks where
  outside := fun hfalse => by cases hfalse
  follows := (List.isChain_cons.mp h.follows).2
  rows := fun label value depth hrow => h.rows label value depth (List.mem_cons_of_mem _ hrow)

/-- What comes after a standalone question goes on outside of all tables. -/
theorem behind {label value : String} {answered : Bool}
    (h : GoesOn inTable (.standalone label value answered :: blocks)) : GoesOn false blocks where
  outside := by
    intro _ next hnext
    rcases (List.isChain_cons.mp h.follows).1 next hnext with hdepth | ⟨-, hheader⟩
    · exact Nat.le_zero.mp hdepth
    · exact hheader.elim
  follows := h.inside.follows
  rows := h.inside.rows

/-- Rows and nested headers stand inside a table. -/
theorem eq_true (h : GoesOn inTable (block :: blocks)) (hdepth : block.depth ≠ 0) :
    inTable = true := by
  cases inTable with
  | true => rfl
  | false => exact absurd (h.outside rfl block rfl) hdepth

end GoesOn

/-! ### The tables of a document -/

namespace StyleSheet

variable (style : StyleSheet) (rest : List Call)

theorem tableFronts_closeTable : tableFronts (style.closeTable ++ rest) = tableFronts rest :=
  tableFronts_append (by simp [closeTable]) rest

theorem bodyCalls_false_topHeader (text : String) (blocks : List Block) :
    style.bodyCalls false (.sectionHeader text 0 :: blocks) =
      .beginTable :: style.headerCall text 0 :: style.bodyCalls true blocks := by
  simp [bodyCalls, blockCalls]

theorem tableFronts_bodyCalls (blocks : List Block) : ∀ inTable, GoesOn inTable blocks →
    tableFronts (style.bodyCalls inTable blocks ++ rest) =
      (topHeaders blocks).map (fun text => some (style.headerCall text 0)) ++
        tableFronts rest := by
  induction blocks with
  | nil =>
    intro inTable _
    cases inTable with
    | true => exact tableFronts_closeTable style rest
    | false => rfl
  | cons block blocks ih =>
    intro inTable h
    cases block with
    | sectionHeader text depth =>
      by_cases hdepth : depth = 0
      · subst hdepth
        have hopen : tableFronts (style.bodyCalls false (.sectionHeader text 0 :: blocks) ++ rest) =
            some (style.headerCall text 0) ::
              tableFronts (style.bodyCalls true blocks ++ rest) := by
          rw [bodyCalls_false_topHeader]
          rfl
        cases inTable with
        | false => rw [hopen, ih true h.inside]; rfl
        | true =>
          rw [bodyCalls_true_topHeader, List.append_assoc, tableFronts_closeTable, hopen,
            ih true h.inside]
          rfl
      · obtain rfl := h.eq_true hdepth
        have htop : topHeaders (.sectionHeader text depth :: blocks) = topHeaders blocks := by
          simp [topHeaders, hdepth]
        rw [bodyCalls_true_header style blocks text hdepth, htop]
        exact ih true h.inside
    | row label value depth =>
      have hdepth : 1 ≤ depth := h.rows label value depth List.mem_cons_self
      obtain rfl := h.eq_true (Nat.one_le_iff_ne_zero.mp hdepth)
      exact ih true h.inside
    | standalone label value answered =>
      have hfront : tableFronts
          (style.bodyCalls false (.standalone label value answered :: blocks) ++ rest) =
            tableFronts (style.bodyCalls false blocks ++ rest) := rfl
      cases inTable with
      | false => rw [hfront]; exact ih false h.behind
      | true =>
        rw [bodyCalls_true_standalone, List.append_assoc, tableFronts_closeTable, hfront]
        exact ih false h.behind

end StyleSheet

/-- **The tables of an outline**: one for each section of the top level, begun by its header. -/
theorem tableFronts_calls {document : Document} (h : ProperOutline document.blocks)
    (style : StyleSheet) (footer : Option FooterImage) :
    tableFronts (document.calls style footer) =
      (topHeaders document.blocks).map fun text => some (style.headerCall text 0) := by
  have hgoes : GoesOn false document.blocks := ⟨fun _ => h.first, h.follows, h.rows⟩
  have hfooter : tableFronts (footer.map Call.footerImage).toList = [] := by
    cases footer <;> rfl
  have htitle : Call.beginTable ∉ [Call.paragraph .title (style.run document.title style.title)] ++
      (document.description.map fun text =>
        Call.paragraph .description (style.run text style.description)).toList := by
    cases document.description <;> simp
  unfold Document.calls
  rw [List.append_assoc, tableFronts_append htitle, style.tableFronts_bodyCalls _ _ _ hgoes,
    hfooter, List.append_nil]

/-- **A compiled document is an outline, with a table for each section of the top level.** A writer
that refuses nothing is told to open as many tables as the document has headers of the top level,
and the first calls inside the tables are those of these headers, in the order of the document. -/
theorem document_is_outline (form : Form) (answers : Answers) :
    ProperOutline (form.compile answers).blocks ∧
      ∀ (style : StyleSheet) (footer : Option FooterImage),
        ((Writer.recording none).write [] (form.compile answers) style footer).refusal = none ∧
        ((Writer.recording none).write [] (form.compile answers) style footer).state.reverse.count
            .beginTable = (topHeaders (form.compile answers).blocks).length ∧
        tableFronts
            ((Writer.recording none).write [] (form.compile answers) style footer).state.reverse =
          (topHeaders (form.compile answers).blocks).map
            fun text => some (style.headerCall text 0) := by
  have houtline := properOutline_compile form answers
  refine ⟨houtline, fun style footer => ?_⟩
  have hfronts := tableFronts_calls houtline style footer
  rw [Writer.write, feed_recording_none, List.append_nil, List.reverse_reverse]
  refine ⟨rfl, ?_, hfronts⟩
  rw [← length_tableFronts, hfronts, List.length_map]

/-- The nested section of the bundled form opens no table. -/
example :
    let document := Service.bundledForm.compile ⟨[("3", .str "32")]⟩
    document.blocks.map Block.depth = [0, 1, 1, 1, 2, 2, 0, 0] ∧
    topHeaders document.blocks = ["Client"] ∧
    tableFronts ((Writer.recording none).write [] document .standard none).state.reverse =
      [some (StyleSheet.standard.headerCall "Client" 0)] := by
  unfold Form.compile
  rw [Service.visibleNodes_bundledForm]
  decide +kernel

end Questionnaire
