import Mathlib.Logic.Relation
import Questionnaire.Proofs.Lint.Findings

/-! # Findings about places

A question that the walk of the outline does not come to is lost, and lint says so, for each such
question once: its parent is no question of the form, or no section, or does not lead up itself.
What the walk comes to is told by following the parents: it is what leads, through sections of the
form only, up to a question without a parent (`reaches_iff_reflTransGen`). Where no id is repeated,
there is one finding about the place of a question if the walk does not come to it, and none if it
does (`place_findings_are_exact`). -/

namespace Questionnaire

open Outline

variable {form : Form} {q : Question}

/-- The walk of the whole outline comes to the question. -/
def Form.Reaches (form : Form) (q : Question) : Prop :=
  ∃ node ∈ (ofQuestions form.questions).reachable, node.question = q

/-- The question names the other one as its parent, which is a section of the form. -/
def Form.StandsUnder (form : Form) (q parent : Question) : Prop :=
  parent ∈ form.questions ∧ parent.isSection = true ∧ q.parentId = some parent.id

namespace Form

/-! ### Following the parents -/

theorem reaches_iff_leads :
    form.Reaches q ↔ ∃ e, Leads form.questions (fun _ => true) e ∧ e.question = q :=
  mem_walk_iff

theorem exists_top_of_leads {e : Entry} (h : Leads form.questions (fun _ => true) e) :
    ∃ top, Relation.ReflTransGen form.StandsUnder e.question top ∧ top.parentId = none := by
  induction h with
  | top _ noParent _ => exact ⟨_, .refl, noParent⟩
  | under above isSection _ names _ ih =>
    obtain ⟨top, hsteps, htop⟩ := ih
    exact ⟨top, .head ⟨above.isEntry.mem, isSection, names⟩ hsteps, htop⟩

theorem leads_of_top {top : Question} (htop : top.parentId = none)
    (h : Relation.ReflTransGen form.StandsUnder q top) :
    ∀ e, IsEntry form.questions e → e.question = q → Leads form.questions (fun _ => true) e := by
  induction h using Relation.ReflTransGen.head_induction_on with
  | refl =>
    rintro e hentry rfl
    exact .top hentry htop rfl
  | head hunder _ ih =>
    rintro e hentry rfl
    obtain ⟨hmem, hsection, hnames⟩ := hunder
    obtain ⟨parent, hparent, rfl⟩ := exists_isEntry hmem
    exact .under (ih parent hparent rfl) hsection hentry hnames rfl

/-- **The walk comes to what leads up through sections.** Ids may repeat. -/
theorem reaches_iff_reflTransGen (hq : q ∈ form.questions) : form.Reaches q ↔
    ∃ top, Relation.ReflTransGen form.StandsUnder q top ∧ top.parentId = none := by
  rw [reaches_iff_leads]
  constructor
  · rintro ⟨e, hleads, rfl⟩
    exact exists_top_of_leads hleads
  · rintro ⟨top, hsteps, htop⟩
    obtain ⟨e, hentry, rfl⟩ := exists_isEntry hq
    exact ⟨e, leads_of_top htop hsteps e hentry rfl, rfl⟩

/-- A question with a parent is reached from a section with the parent's id that is reached. -/
theorem exists_of_reaches {parent : ItemId} (h : form.Reaches q)
    (hparent : q.parentId = some parent) :
    ∃ p ∈ form.questions, p.id = parent ∧ p.isSection = true := by
  obtain ⟨e, hleads, rfl⟩ := reaches_iff_leads.mp h
  cases hleads with
  | top _ noParent _ =>
    rw [noParent] at hparent
    cases hparent
  | @under _ p above isSection _ names _ =>
    exact ⟨p.question, above.isEntry.mem, Option.some.inj (names.symm.trans hparent), isSection⟩

theorem reaches_of_parentId_eq_none (hq : q ∈ form.questions) (h : q.parentId = none) :
    form.Reaches q := by
  obtain ⟨e, hentry, rfl⟩ := exists_isEntry hq
  exact reaches_iff_leads.mpr ⟨e, .top hentry h rfl, rfl⟩

/-! ### Looking questions up -/

theorem questionsById_of_mem (hids : form.DistinctIds) (hq : q ∈ form.questions) :
    form.questionsById[q.id.text]? = some q := by
  unfold questionsById
  refine foldl_insert_of_mem (fun q : Question => q.id.text) (fun q => q) ⟨q, hq, rfl⟩
    (fun q' hq' hid => ?_) ∅
  exact hids.eq_of_id hq' hq (ItemId.ext hid)

theorem contains_reachableIds_iff (hids : form.DistinctIds) (hq : q ∈ form.questions) :
    form.reachableIds.contains q.id.text = true ↔ form.Reaches q := by
  unfold reachableIds
  rw [Std.TreeSet.contains_ofList, List.contains_iff_mem, List.mem_map]
  constructor
  · rintro ⟨node, hnode, hid⟩
    obtain ⟨e, hleads, he⟩ := mem_walk_iff.mp ⟨node, hnode, rfl⟩
    have hmem : node.question ∈ form.questions := he ▸ hleads.isEntry.mem
    exact ⟨node, hnode, hids.eq_of_id hmem hq (ItemId.ext hid)⟩
  · rintro ⟨node, hnode, rfl⟩
    exact ⟨node, hnode, rfl⟩

/-! ### What lint finds about one place -/

theorem lintPlace_of_reaches (hids : form.DistinctIds) (hq : q ∈ form.questions)
    (h : form.Reaches q) : lintPlace form.questionsById form.reachableIds q = [] := by
  unfold lintPlace
  cases hparent : q.parentId with
  | none => rfl
  | some parent =>
    obtain ⟨p, hp, rfl, hsection⟩ := exists_of_reaches h hparent
    have hreached := (contains_reachableIds_iff hids hq).mpr h
    simp only [questionsById_of_mem hids hp, hsection, hreached, Bool.not_true, Bool.false_eq_true,
      if_false, if_true]

/-- A place that the walk does not come to has one thing wrong with it. -/
theorem exists_lintPlace_of_not_reaches (hids : form.DistinctIds) (hq : q ∈ form.questions)
    (h : ¬ form.Reaches q) :
    ∃ f, lintPlace form.questionsById form.reachableIds q = [f] := by
  unfold lintPlace
  cases hparent : q.parentId with
  | none => exact absurd (reaches_of_parentId_eq_none hq hparent) h
  | some parent =>
    have hreached : form.reachableIds.contains q.id.text = false := by
      rw [Bool.eq_false_iff, ne_eq, contains_reachableIds_iff hids hq]
      exact h
    cases hlookup : form.questionsById[parent.text]? with
    | none => exact ⟨.missingParent q.id parent, by simp [hlookup]⟩
    | some p =>
      cases hsection : p.isSection with
      | false => exact ⟨.parentNotSection q.id parent, by simp [hlookup, hsection]⟩
      | true => exact ⟨.unreachable q.id, by simp [hlookup, hsection, hreached]⟩

/-! ### What lint finds about all places -/

/-- The findings about the place of a question. -/
def placeFindings (form : Form) (q : Question) : List Finding :=
  form.lint.filter fun f => f.isPlace && f.question? == some q.id

theorem isPlace_of_fault {r : Rule} {f : Finding} (h : Fault form r f) : f.isPlace = false := by
  cases h <;> rfl

theorem filter_lintQuestion (byId : Std.TreeMap String Question) (reachable : Std.TreeSet String)
    (q' : Question) (id : ItemId) :
    (lintPlace byId reachable q' ++ lintOptions q').filter
        (fun f => f.isPlace && f.question? == some id) =
      if q'.id = id then lintPlace byId reachable q' else [] := by
  have hoptions : (lintOptions q').filter (fun f => f.isPlace && f.question? == some id) = [] := by
    rw [List.filter_eq_nil_iff]
    intro f hf
    rw [eq_of_mem_lintOptions hf]
    simp [Finding.isPlace]
  rw [List.filter_append, hoptions, List.append_nil]
  split
  · next hid =>
    rw [List.filter_eq_self]
    intro f hf
    obtain ⟨hplace, hquestion⟩ := isPlace_of_mem_lintPlace hf
    simp [hplace, hquestion, hid]
  · next hid =>
    rw [List.filter_eq_nil_iff]
    intro f hf
    obtain ⟨-, hquestion⟩ := isPlace_of_mem_lintPlace hf
    simp [hquestion, hid]

/-- Where no id is repeated, a question is the only one with its id. -/
theorem flatMap_of_id {questions : List Question} (hids : (questions.map (·.id)).Nodup)
    (hq : q ∈ questions) (found : Question → List Finding) :
    questions.flatMap (fun q' => if q'.id = q.id then found q' else []) = found q := by
  induction questions with
  | nil => cases hq
  | cons q' questions ih =>
    obtain ⟨hnew, hnodup⟩ := List.nodup_cons.mp hids
    rw [List.flatMap_cons]
    rcases List.mem_cons.mp hq with rfl | hq
    · have hrest : questions.flatMap (fun q' => if q'.id = q.id then found q' else []) = [] := by
        rw [List.flatMap_eq_nil_iff]
        exact fun q' hq' => if_neg fun hid => hnew (List.mem_map.mpr ⟨q', hq', hid⟩)
      rw [if_pos rfl, hrest, List.append_nil]
    · have hid : q'.id ≠ q.id := fun hid => hnew (List.mem_map.mpr ⟨q, hq, hid.symm⟩)
      rw [if_neg hid, List.nil_append, ih hnodup hq]

/-- **The findings about the place of a question are those made where it stands.** -/
theorem placeFindings_eq (hids : form.DistinctIds) (hq : q ∈ form.questions) :
    form.placeFindings q = lintPlace form.questionsById form.reachableIds q := by
  have hduplicates : (duplicates [] form.questions).filter
      (fun f => f.isPlace && f.question? == some q.id) = [] := by
    rw [duplicates_eq_nil_iff.mpr ⟨hids, by simp⟩]
    rfl
  have hrules : form.lintRules.filter (fun f => f.isPlace && f.question? == some q.id) = [] := by
    rw [List.filter_eq_nil_iff]
    intro f hf
    obtain ⟨r, -, hf⟩ := List.mem_flatMap.mp hf
    simp [isPlace_of_fault (mem_lintRule_iff.mp hf)]
  unfold placeFindings lint lintQuestions
  rw [List.filter_append, List.filter_append, hduplicates, hrules, List.filter_flatMap,
    List.nil_append, List.append_nil]
  simp only [filter_lintQuestion]
  exact flatMap_of_id hids hq _

end Form

/-! ### Places as a whole -/

/-- **Lint names each question that the walk does not come to once, and no other.** Where no id is
repeated, one finding says what is wrong with the place of a question if the walk does not come to
it, and none if it does. It comes to the questions that lead through sections of the form up to one
without a parent, and to all questions if there are no such findings. -/
theorem place_findings_are_exact (form : Form) (hids : form.DistinctIds) :
    (∀ q ∈ form.questions,
      (¬ form.Reaches q → (form.placeFindings q).length = 1) ∧
      (form.Reaches q → form.placeFindings q = []) ∧
      (form.Reaches q ↔
        ∃ top, Relation.ReflTransGen form.StandsUnder q top ∧ top.parentId = none)) ∧
    ((∀ f ∈ form.lint, f.isPlace = false) → ∀ q ∈ form.questions, form.Reaches q) := by
  refine ⟨fun q hq => ⟨fun h => ?_, fun h => ?_, Form.reaches_iff_reflTransGen hq⟩,
    fun hnone q hq => ?_⟩
  · obtain ⟨f, hf⟩ := Form.exists_lintPlace_of_not_reaches hids hq h
    rw [Form.placeFindings_eq hids hq, hf]
    rfl
  · rw [Form.placeFindings_eq hids hq, Form.lintPlace_of_reaches hids hq h]
  · by_contra h
    obtain ⟨f, hf⟩ := Form.exists_lintPlace_of_not_reaches hids hq h
    have hmem : f ∈ form.placeFindings q := by
      rw [Form.placeFindings_eq hids hq, hf]
      exact List.mem_singleton_self f
    obtain ⟨hlint, hplace⟩ := List.mem_filter.mp hmem
    rw [hnone f hlint] at hplace
    cases hplace

/-- A question below two sections that stand under each other. -/
def circledQuestions : List Question :=
  [⟨⟨"x"⟩, "Inside", .freeText, some ⟨"l"⟩, 0, false, false, none, none, []⟩,
    ⟨⟨"l"⟩, "Left", .heading, some ⟨"m"⟩, 0, false, false, none, none, []⟩,
    ⟨⟨"m"⟩, "Right", .heading, some ⟨"l"⟩, 0, false, false, none, none, []⟩]

/-- A form in which a section of the top level stands beside the circle. -/
def circledForm : Form :=
  ⟨⟨"f"⟩, "Circle", none,
    ⟨⟨"s"⟩, "Section", .heading, none, 0, false, false, none, none, []⟩ :: circledQuestions, []⟩

/-- Lint names each question of the circle once, and the section beside it not at all. -/
theorem place_findings_are_exact_circled :
    circledForm.DistinctIds ∧
      (∀ q ∈ circledQuestions,
        ¬ circledForm.Reaches q ∧ (circledForm.placeFindings q).length = 1) ∧
      ∀ q ∈ circledForm.questions.head?,
        circledForm.Reaches q ∧ circledForm.placeFindings q = [] := by
  have hids : circledForm.DistinctIds := by decide
  obtain ⟨hplaces, -⟩ := place_findings_are_exact circledForm hids
  -- following the parents never leaves the circle
  have hstep : ∀ q ∈ circledQuestions, ∀ parent ∈ circledForm.questions,
      q.parentId = some parent.id → parent ∈ circledQuestions := by decide
  have hstays : ∀ q ∈ circledQuestions, ∀ top,
      Relation.ReflTransGen circledForm.StandsUnder q top → top ∈ circledQuestions := by
    intro q hq top hsteps
    induction hsteps with
    | refl => exact hq
    | tail _ hunder ih => exact hstep _ ih _ hunder.1 hunder.2.2
  have hnested : ∀ q ∈ circledQuestions, q.parentId ≠ none := by decide
  refine ⟨hids, fun q hq => ?_, fun q hq => ?_⟩
  · obtain ⟨hlost, -, hreaches⟩ := hplaces q (List.mem_cons_of_mem _ hq)
    have hnot : ¬ circledForm.Reaches q := by
      rw [hreaches]
      rintro ⟨top, hsteps, htop⟩
      exact hnested top (hstays q hq top hsteps) htop
    exact ⟨hnot, hlost hnot⟩
  · cases hq
    obtain ⟨-, hfound, hreaches⟩ := hplaces _ List.mem_cons_self
    have hreached := hreaches.mpr ⟨_, .refl, rfl⟩
    exact ⟨hreached, hfound hreached⟩

end Questionnaire
