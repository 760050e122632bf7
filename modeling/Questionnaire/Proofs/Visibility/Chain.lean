import Questionnaire.Proofs.Outline.Walk
import Questionnaire.Proofs.Visibility.Policy

/-! # Effective visibility as a chain of sections

The map of what a respondent sees is made by a walk from the top level downwards. `LeadsUp` reads
it in the other direction: from a question upwards, each question standing under the section that
comes next, all of them visible by their own rules, up to one without a parent. The map has the ids
of the form as its keys, and an id is visible if and only if such a chain starts at a question with
the id (`effectiveVisibility_iff_leadsUp`). -/

namespace Questionnaire

open Outline

variable {form : Form} {answers : Answers}

/-- **A chain up to the top level**: visible questions of the form, each followed by the section
that it names as its parent, the last of them without a parent. -/
structure LeadsUp (form : Form) (answers : Answers) (chain : List Question) : Prop where
  mem : ∀ q ∈ chain, q ∈ form.questions
  visible : ∀ q ∈ chain, isVisible q form.rules answers = true
  linked : chain.IsChain fun child parent =>
    parent.isSection = true ∧ child.parentId = some parent.id
  top : ∀ q ∈ chain.getLast?, q.parentId = none

/-! ### The walk with the rules as its test -/

/-- The entry and the sections above it are visible by their own rules. -/
abbrev Shown (form : Form) (answers : Answers) : Entry → Prop :=
  Leads form.questions fun q => isVisible q form.rules answers

theorem visibleNodes_eq (form : Form) (answers : Answers) :
    form.visibleNodes answers =
      (ofQuestions form.questions).walk fun q => isVisible q form.rules answers := by
  simp only [Form.visibleNodes, RuleIndex.isVisible_ofRules]

theorem mem_visibleNodes_iff {q : Question} :
    (∃ node ∈ form.visibleNodes answers, node.question = q) ↔
      ∃ e, Shown form answers e ∧ e.question = q := by
  rw [visibleNodes_eq, mem_walk_iff]

/-! ### The map -/

theorem getD_false_iff {shown : Option Bool} : shown.getD false = true ↔ shown = some true := by
  cases shown with
  | none => simp
  | some _ => simp

theorem allHidden_of_mem {q : Question} (hq : q ∈ form.questions) :
    form.allHidden[q.id.text]? = some false := by
  unfold Form.allHidden
  exact foldl_insert_of_mem _ (fun _ => false) ⟨q, hq, rfl⟩ (fun _ _ _ => rfl) ∅

theorem allHidden_of_not_mem {id : String} (h : ∀ q ∈ form.questions, q.id.text ≠ id) :
    form.allHidden[id]? = none := by
  unfold Form.allHidden
  rw [foldl_insert_of_not_mem _ (fun _ => false) h]
  simp

/-- The map shows the questions that are walked to. -/
theorem effectiveVisibility_of_node {node : Node} (h : node ∈ form.visibleNodes answers) :
    (form.effectiveVisibility answers)[node.question.id.text]? = some true := by
  unfold Form.effectiveVisibility
  exact foldl_insert_of_mem (fun node : Node => node.question.id.text) (fun _ => true)
    ⟨node, h, rfl⟩ (fun _ _ _ => rfl) _

theorem effectiveVisibility_of_shown {e : Entry} (h : Shown form answers e) :
    (form.effectiveVisibility answers)[e.question.id.text]? = some true := by
  obtain ⟨node, hnode, hq⟩ := mem_visibleNodes_iff.mpr ⟨e, h, rfl⟩
  rw [← hq]
  exact effectiveVisibility_of_node hnode

theorem effectiveVisibility_of_not_shown {id : String}
    (h : ∀ e, Shown form answers e → e.question.id.text ≠ id) :
    (form.effectiveVisibility answers)[id]? = form.allHidden[id]? := by
  unfold Form.effectiveVisibility
  refine foldl_insert_of_not_mem (fun node : Node => node.question.id.text) (fun _ => true)
    (fun node hnode => ?_) _
  obtain ⟨e, he, hq⟩ := mem_visibleNodes_iff.mp ⟨node, hnode, rfl⟩
  rw [← hq]
  exact h e he

/-- **An id is visible when an entry with it is shown.** -/
theorem effectiveVisibility_eq_true_iff {id : String} :
    (form.effectiveVisibility answers)[id]? = some true ↔
      ∃ e, Shown form answers e ∧ e.question.id.text = id := by
  constructor
  · intro h
    by_contra hno
    -- then the id has kept the value that it has in `allHidden`, if any
    rw [effectiveVisibility_of_not_shown fun e he hid => hno ⟨e, he, hid⟩] at h
    by_cases hmem : ∃ q ∈ form.questions, q.id.text = id
    · obtain ⟨q, hq, rfl⟩ := hmem
      rw [allHidden_of_mem hq] at h
      cases h
    · rw [allHidden_of_not_mem fun q hq hid => hmem ⟨q, hq, hid⟩] at h
      cases h
  · rintro ⟨e, he, rfl⟩
    exact effectiveVisibility_of_shown he

/-- The keys of the map are the ids of the form. -/
theorem mem_effectiveVisibility_iff {id : String} :
    id ∈ form.effectiveVisibility answers ↔ ∃ q ∈ form.questions, q.id.text = id := by
  rw [Std.TreeMap.mem_iff_isSome_getElem?]
  by_cases hshown : ∃ e, Shown form answers e ∧ e.question.id.text = id
  · rw [effectiveVisibility_eq_true_iff.mpr hshown]
    obtain ⟨e, he, hid⟩ := hshown
    simp only [Option.isSome_some, true_iff]
    exact ⟨e.question, he.isEntry.mem, hid⟩
  · rw [effectiveVisibility_of_not_shown fun e he hid => hshown ⟨e, he, hid⟩]
    by_cases hmem : ∃ q ∈ form.questions, q.id.text = id
    · obtain ⟨q, hq, rfl⟩ := hmem
      simp only [allHidden_of_mem hq, Option.isSome_some, true_iff]
      exact ⟨q, hq, rfl⟩
    · simp [allHidden_of_not_mem fun q hq hid => hmem ⟨q, hq, hid⟩, hmem]

/-! ### Chains -/

theorem exists_leadsUp_of_shown {e : Entry} (h : Shown form answers e) :
    ∃ above, LeadsUp form answers (e.question :: above) := by
  induction h with
  | top entry noParent kept =>
    refine ⟨[], ⟨?_, ?_, by simp, ?_⟩⟩
    · simpa using entry.mem
    · simpa using kept
    · simpa using noParent
  | @under e parent _ isSection entry names kept ih =>
    obtain ⟨above, hmem, hvisible, hlinked, htop⟩ := ih
    refine ⟨parent.question :: above, ⟨?_, ?_, ?_, ?_⟩⟩
    · simpa [entry.mem] using hmem
    · simpa [kept] using hvisible
    · exact List.isChain_cons_cons.mpr ⟨⟨isSection, names⟩, hlinked⟩
    · simpa using htop

theorem shown_of_leadsUp {chain : List Question} (h : LeadsUp form answers chain) :
    ∀ e, IsEntry form.questions e → chain.head? = some e.question → Shown form answers e := by
  induction chain with
  | nil => simp
  | cons q chain ih =>
    intro e hentry hq
    cases hq
    have hkept : isVisible e.question form.rules answers = true := h.visible _ (by simp)
    cases chain with
    | nil => exact .top hentry (h.top _ (by simp)) hkept
    | cons parent above =>
      obtain ⟨⟨hsection, hnames⟩, hlinked⟩ := List.isChain_cons_cons.mp h.linked
      have habove : LeadsUp form answers (parent :: above) :=
        ⟨fun q hq => h.mem q (List.mem_cons_of_mem _ hq),
          fun q hq => h.visible q (List.mem_cons_of_mem _ hq), hlinked,
          fun q hq => h.top q (by simpa using hq)⟩
      obtain ⟨p, hp, rfl⟩ := exists_isEntry (habove.mem parent (by simp))
      exact .under (ih habove p hp rfl) hsection hentry hnames hkept

/-- **Effective visibility is a chain of visible sections.** The map knows the ids of the form, and
shows those from which visible questions lead up to the top level, each standing under a section. -/
theorem effectiveVisibility_iff_leadsUp (form : Form) (answers : Answers) :
    (∀ id, id ∈ form.effectiveVisibility answers ↔ ∃ q ∈ form.questions, q.id.text = id) ∧
    ∀ id, (form.effectiveVisibility answers)[id]? = some true ↔
      ∃ q above, q.id.text = id ∧ LeadsUp form answers (q :: above) := by
  refine ⟨fun id => mem_effectiveVisibility_iff, fun id => ?_⟩
  rw [effectiveVisibility_eq_true_iff]
  constructor
  · rintro ⟨e, he, rfl⟩
    obtain ⟨above, habove⟩ := exists_leadsUp_of_shown he
    exact ⟨e.question, above, rfl, habove⟩
  · rintro ⟨q, above, rfl, h⟩
    obtain ⟨e, hentry, rfl⟩ := exists_isEntry (h.mem q (by simp))
    exact ⟨e, shown_of_leadsUp h e hentry rfl, rfl⟩

end Questionnaire
