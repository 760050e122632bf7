import Questionnaire.Form.Basic
import Questionnaire.Grouping

/-! # The outline of a form

The questions of a form are a flat list; the outline finds the questions of the top level and those
under each parent, siblings in the order of their order indexes and equal indexes in the order of
the form. `Outline.visits` walks it depth first. Only sections are descended into, a question that
the given test refuses is left out with all below it, and every entry of the form is visited at most
once, so that neither repeated ids nor parents in a circle keep the walk from ending: `pending`
holds the positions not yet visited, and each visit takes one away. -/

namespace Questionnaire

/-- A question and its position in the form. -/
structure Entry where
  position : Nat
  question : Question
deriving DecidableEq

/-- An entry that the walk came to, and whether the test kept it. -/
structure Visit where
  entry : Entry
  depth : Nat
  kept : Bool
deriving DecidableEq

/-- A question that the walk kept. -/
structure Node where
  question : Question
  depth : Nat
deriving DecidableEq

/-- The top level of a form and the questions under each parent. -/
structure Outline where
  questions : List Question
  roots : List Entry
  children : Grouping Entry

namespace Outline

/-- The questions with their positions, in the order in which siblings stand. -/
def sortedEntries (questions : List Question) : List Entry :=
  let entries := questions.zipIdx.map fun (question, position) => Entry.mk position question
  entries.mergeSort fun a b => decide (a.question.orderIndex ≤ b.question.orderIndex)

/-- The outline of a list of questions. -/
def ofQuestions (questions : List Question) : Outline :=
  let entries := sortedEntries questions
  { questions
    roots := entries.filter (·.question.parentId.isNone)
    children := Grouping.ofList (fun e => e.question.parentId.map (·.text)) entries }

/-- The entries that name a parent, in order. -/
def entriesUnder (outline : Outline) (parent : ItemId) : List Entry :=
  outline.children.group parent.text

/-- The questions that name a parent, in order. -/
def childrenOf (outline : Outline) (parent : ItemId) : List Question :=
  (outline.entriesUnder parent).map (·.question)

/-- The questions of the top level, in order. -/
def rootQuestions (outline : Outline) : List Question := outline.roots.map (·.question)

/-! ### The walk -/

/-- The entries that follow a visited one, one level below it. -/
def below (outline : Outline) (entry : Entry) (depth : Nat) (kept : Bool) : List (Entry × Nat) :=
  if kept && entry.question.isSection then
    (outline.entriesUnder entry.question.id).map fun child => (child, depth + 1)
  else []

/-- The visits that start from an agenda of entries and their depths. -/
def visitsFrom (outline : Outline) (keep : Question → Bool) (pending : List Nat) :
    List (Entry × Nat) → List Visit
  | [] => []
  | (entry, depth) :: agenda =>
    if entry.position ∈ pending then
      let kept := keep entry.question
      ⟨entry, depth, kept⟩ ::
        visitsFrom outline keep (pending.erase entry.position)
          (outline.below entry depth kept ++ agenda)
    else visitsFrom outline keep pending agenda
termination_by agenda => (pending.length, agenda.length)
decreasing_by
  · rename_i h
    have : 0 < pending.length := List.length_pos_of_mem h
    rw [List.length_erase_of_mem h]
    exact Prod.Lex.left _ _ (by omega)
  · exact Prod.Lex.right _ (by simp)

/-- Every visit of the walk, in order. -/
def visits (outline : Outline) (keep : Question → Bool) : List Visit :=
  outline.visitsFrom keep (List.range outline.questions.length)
    (outline.roots.map fun root => (root, 0))

/-- The questions that the walk keeps, each with its depth. -/
def walk (outline : Outline) (keep : Question → Bool) : List Node :=
  (outline.visits keep).filterMap fun v =>
    if v.kept then some ⟨v.entry.question, v.depth⟩ else none

/-- The questions that lead up to the top level, in the order of the walk. -/
def reachable (outline : Outline) : List Node := outline.walk fun _ => true

end Outline

end Questionnaire
