import Mathlib.Data.List.Forall2
import Questionnaire.Proofs.Document.Texts
import Questionnaire.Proofs.Lint.Findings
import Questionnaire.Proofs.Validation.Report

/-! # The labels that a document shows

The labels of a form are one map from option ids to texts, whichever question an option belongs to:
a key reads as the text of the last option of the form with that id (`label_of_labelOf`). So a
document shows a question's own options as long as no question further down offers the same id
(`document_shows_option_labels`), and the text of another question's option where one does
(`shared_option_shows_other_label`). Neither lint nor validation looks at that. -/

namespace Questionnaire

open Outline

variable {form : Form} {answers : Answers} {q : Question}

/-! ### The option that a key is read as -/

/-- The option has the id, and no later option of the form does. -/
structure LabelOf (form : Form) (key : String) (c : Choice) : Prop where
  id_eq : c.id.text = key
  last : ∃ before after, form.allOptions = before ++ c :: after ∧ ∀ d ∈ after, d.id.text ≠ key

theorem labelOf_iff {key : String} {c : Choice} :
    LabelOf form key c ↔ form.allOptions.reverse.find? (fun d => d.id.text == key) = some c := by
  rw [List.find?_eq_some_iff_append]
  constructor
  · rintro ⟨hid, before, after, hsplit, hlater⟩
    refine ⟨by simpa using hid, after.reverse, before.reverse, by simp [hsplit], ?_⟩
    simpa using hlater
  · rintro ⟨hid, later, earlier, hsplit, hlater⟩
    refine ⟨by simpa using hid, earlier.reverse, later.reverse, ?_, by simpa using hlater⟩
    rw [← List.reverse_reverse form.allOptions, hsplit]
    simp

/-- **A key reads as the text of the last option of the form with that id.** -/
theorem label_of_labelOf {key : String} {c : Choice} (h : LabelOf form key c) :
    (Labels.ofForm form).label key = c.text := by
  unfold Labels.label Labels.ofForm Labels.ofChoices
  rw [getElem?_foldl_insert (fun c : Choice => c.id.text) (·.text), labelOf_iff.mp h]
  rfl

theorem mem_allOptions_iff {c : Choice} :
    c ∈ form.allOptions ↔ ∃ q ∈ form.questions, c ∈ q.options :=
  List.mem_flatMap

theorem exists_labelOf {key : String} (hq : q ∈ form.questions) (h : q.offers key = true) :
    ∃ c, LabelOf form key c := by
  obtain ⟨c, hc, hid⟩ := Question.offers_iff.mp h
  have hmem : c ∈ form.allOptions.reverse :=
    List.mem_reverse.mpr (mem_allOptions_iff.mpr ⟨q, hq, hc⟩)
  have hfound : (form.allOptions.reverse.find? fun d => d.id.text == key).isSome :=
    List.find?_isSome.mpr ⟨c, hmem, by simpa using hid⟩
  obtain ⟨d, hd⟩ := Option.isSome_iff_exists.mp hfound
  exact ⟨d, labelOf_iff.mpr hd⟩

/-- The option is the question's own, unless a question further down offers the id as well. -/
theorem mem_options_of_labelOf {key : String} {c : Choice} (h : LabelOf form key c)
    (hoffers : q.offers key = true) {before after : List Question}
    (hsplit : form.questions = before ++ q :: after)
    (hlater : ∀ later ∈ after, later.offers key = false) : c ∈ q.options := by
  have hfind := labelOf_iff.mp h
  have hnone : (after.flatMap (·.options)).reverse.find? (fun d => d.id.text == key) = none := by
    rw [List.find?_eq_none]
    intro d hd
    obtain ⟨later, hmem, hd⟩ := List.mem_flatMap.mp (List.mem_reverse.mp hd)
    have hoff := hlater later hmem
    simp only [Question.offers, List.any_eq_false] at hoff
    exact hoff d hd
  have hoptions : form.allOptions.reverse = (after.flatMap (·.options)).reverse ++
      (q.options.reverse ++ (before.flatMap (·.options)).reverse) := by
    simp [Form.allOptions, hsplit]
  rw [hoptions, List.find?_append, hnone, Option.none_or, List.find?_append] at hfind
  cases hown : q.options.reverse.find? fun d => d.id.text == key with
  | none =>
    obtain ⟨d, hd, hid⟩ := Question.offers_iff.mp hoffers
    exact absurd (by simpa using hid) (List.find?_eq_none.mp hown d (List.mem_reverse.mpr hd))
  | some d =>
    rw [hown, Option.some_or] at hfind
    obtain rfl := Option.some.inj hfind
    exact List.mem_reverse.mp (List.mem_of_find?_eq_some hown)

/-! ### The options that an answer names -/

/-- **The option that a question's answer is shown with**: the last of the form with the id, and one
of the question's own unless a question further down offers the id as well. -/
structure ReadAs (form : Form) (q : Question) (key : String) (c : Choice) : Prop where
  labelOf : LabelOf form key c
  offered : q.offers key = true
  own : ∀ before after, form.questions = before ++ q :: after →
    (∀ later ∈ after, later.offers key = false) → c ∈ q.options

theorem exists_readAs (hq : q ∈ form.questions) {keys : List String}
    (h : ∀ key ∈ keys, q.offers key = true) :
    ∃ chosen, List.Forall₂ (ReadAs form q) keys chosen ∧
      keys.map (Labels.ofForm form).label = chosen.map (·.text) := by
  induction keys with
  | nil => exact ⟨[], .nil, rfl⟩
  | cons key keys ih =>
    rw [List.forall_mem_cons] at h
    obtain ⟨hoffers, hrest⟩ := h
    obtain ⟨chosen, hchosen, htexts⟩ := ih hrest
    obtain ⟨c, hc⟩ := exists_labelOf hq hoffers
    have hread : ReadAs form q key c :=
      ⟨hc, hoffers, fun _ _ hsplit hlater => mem_options_of_labelOf hc hoffers hsplit hlater⟩
    exact ⟨c :: chosen, .cons hread hchosen, by rw [List.map_cons, List.map_cons, htexts,
      label_of_labelOf hc]⟩

/-! ### The block of a question -/

/-- The block stands in the document at the place of the question. -/
def IsBlockOf (form : Form) (answers : Answers) (q : Question) (block : Block) : Prop :=
  ∃ (i : Nat) (node : Node), (form.visibleNodes answers)[i]? = some node ∧ node.question = q ∧
    (form.compile answers).blocks[i]? = some block

/-- The block is that of a question with the text, and shows the value. -/
def Block.Reads (label value : String) : Block → Prop
  | .sectionHeader _ _ => False
  | .row l v _ | .standalone l v _ => l = label ∧ v = value

theorem isBlockOf_iff {block : Block} :
    IsBlockOf form answers q block ↔ ∃ node ∈ form.visibleNodes answers,
      node.question = q ∧ node.block answers (.ofForm form) = block := by
  unfold IsBlockOf Form.compile
  simp only [List.getElem?_map]
  constructor
  · rintro ⟨i, node, hnode, hq, hblock⟩
    rw [hnode] at hblock
    exact ⟨node, List.mem_of_getElem? hnode, hq, Option.some.inj hblock⟩
  · rintro ⟨node, hnode, hq, rfl⟩
    obtain ⟨i, hi⟩ := List.getElem?_of_mem hnode
    exact ⟨i, node, hi, hq, by rw [hi]; rfl⟩

/-- A question that is seen has a block. -/
theorem exists_isBlockOf (h : Seen form answers q) : ∃ block, IsBlockOf form answers q block := by
  obtain ⟨node, hnode, hq⟩ := mem_visibleNodes_iff.mpr h
  exact ⟨_, isBlockOf_iff.mpr ⟨node, hnode, hq, rfl⟩⟩

/-- A block shows the text and the answer of its question. -/
theorem reads_of_isBlockOf {block : Block} (hsection : q.isSection = false)
    (h : IsBlockOf form answers q block) :
    block.Reads q.text (q.displayValue (answers.get? q.id) (.ofForm form)) := by
  obtain ⟨node, -, rfl, rfl⟩ := isBlockOf_iff.mp h
  unfold Node.block
  rw [if_neg (by simp [hsection])]
  split
  · exact ⟨rfl, rfl⟩
  · exact ⟨rfl, rfl⟩

/-! ### The labels of an answer -/

/-- **The document shows the labels of the options that an answer names.** On a form without findings
and for answers that are valid, every choice that is seen and answered has a block, with the texts
of the options that the answer names, in the order of the answer and with commas between them. They
are options of the question itself, unless a question further down offers the same id. -/
theorem document_shows_option_labels (form : Form) (hlint : form.lint = []) (answers : Answers)
    (hvalid : (form.validate answers).valid = true) (q : Question) (hq : q ∈ form.questions)
    (hkind : q.kind = .multipleChoice)
    (hvisible : (form.effectiveVisibility answers)[q.id.text]? = some true) (value : Json)
    (hgiven : answers.given? q.id = some value) :
    (∃ block, IsBlockOf form answers q block) ∧
      ∃ chosen, List.Forall₂ (ReadAs form q) (Answers.keysOf value) chosen ∧
        ∀ block, IsBlockOf form answers q block →
          block.Reads q.text (", ".intercalate (chosen.map (·.text))) := by
  have hids : form.DistinctIds := Form.distinctIds_of_lint hlint
  have hseen : Seen form answers q := by
    rw [← getD_effectiveVisibility_iff_seen hids answers hq, hvisible]
    rfl
  have hsection : q.isSection = false := by
    unfold Question.isSection
    rw [hkind]
    rfl
  have hcheck : q.check value = none :=
    (errors_eq_nil_iff hids).mp (ValidationReport.valid_iff.mp hvalid).1 q value hseen hsection
      hgiven
  obtain ⟨chosen, hchosen, htexts⟩ := exists_readAs hq (offers_of_check hkind hcheck)
  refine ⟨exists_isBlockOf hseen, chosen, hchosen, fun block hblock => ?_⟩
  rw [← htexts, ← Question.answerText_choice hkind, ← Question.displayValue_of_given hgiven]
  exact reads_of_isBlockOf hsection hblock

/-! ### An option id in two questions -/

/-- Whether one smokes, with the option id `1`. -/
def smokerQuestion : Question :=
  ⟨⟨"a"⟩, "Smoker", .multipleChoice, none, 0, true, false, none, none,
    [⟨⟨"1"⟩, "Yes", none, 0⟩]⟩

/-- Whether one drives, with the option id `1` as well. -/
def driverQuestion : Question :=
  ⟨⟨"b"⟩, "Driver", .multipleChoice, none, 1, false, true, none, none,
    [⟨⟨"1"⟩, "No", none, 0⟩, ⟨⟨"2"⟩, "Rarely", none, 1⟩]⟩

/-- A form with an option id in two questions. -/
def sharedForm : Form := ⟨⟨"f"⟩, "Shared option id", none, [smokerQuestion, driverQuestion], []⟩

theorem sharedForm_lint : sharedForm.lint = [] := by decide +kernel

theorem seen_sharedForm (answers : Answers) {q : Question} (hq : q ∈ sharedForm.questions) :
    Seen sharedForm answers q := by
  refine (seen_iff_of_top hq ?_).mpr rfl
  rcases List.mem_cons.mp hq with rfl | hq
  · rfl
  · rw [List.mem_singleton.mp hq]
    rfl

theorem effectiveVisibility_sharedForm (answers : Answers) {q : Question}
    (hq : q ∈ sharedForm.questions) :
    (sharedForm.effectiveVisibility answers)[q.id.text]? = some true := by
  obtain ⟨e, he, rfl⟩ := seen_sharedForm answers hq
  exact effectiveVisibility_of_shown he

/-- A list with a null in it: the labels are those of the question further down. -/
theorem document_shows_option_labels_driver :
    sharedForm.lint = [] ∧
      (sharedForm.validate
        ⟨[("a", .str "1"), ("b", .arr [.str "2", .null, .str "1"])]⟩).valid = true ∧
      ∃ chosen, List.Forall₂ (ReadAs sharedForm driverQuestion) ["2", "1"] chosen ∧
        ∀ block, IsBlockOf sharedForm
            ⟨[("a", .str "1"), ("b", .arr [.str "2", .null, .str "1"])]⟩ driverQuestion block →
          block.Reads "Driver" (", ".intercalate (chosen.map (·.text))) := by
  have hvalid : (sharedForm.validate
      ⟨[("a", .str "1"), ("b", .arr [.str "2", .null, .str "1"])]⟩).valid = true :=
    valid_of_all (by decide) (by decide) (by decide)
  have hq : driverQuestion ∈ sharedForm.questions := by decide
  obtain ⟨-, hlabels⟩ := document_shows_option_labels sharedForm sharedForm_lint _ hvalid
    driverQuestion hq rfl (effectiveVisibility_sharedForm _ hq) _ rfl
  exact ⟨sharedForm_lint, hvalid, hlabels⟩

/-- **The document shows the label of another question's option**: the smoker chose `Yes`, the only
option there is, and the document says `No`. -/
theorem shared_option_shows_other_label :
    sharedForm.lint = [] ∧ (sharedForm.validate ⟨[("a", .str "1")]⟩).valid = true ∧
      smokerQuestion ∈ sharedForm.questions ∧ smokerQuestion.kind = .multipleChoice ∧
      (sharedForm.effectiveVisibility ⟨[("a", .str "1")]⟩)[smokerQuestion.id.text]? = some true ∧
      Answers.given? ⟨[("a", .str "1")]⟩ smokerQuestion.id = some (.str "1") ∧
      (∃ block, IsBlockOf sharedForm ⟨[("a", .str "1")]⟩ smokerQuestion block ∧
        block.Reads "Smoker" "No") ∧
      ∀ chosen, List.Forall₂ (fun key c => c ∈ smokerQuestion.options ∧ c.id.text = key)
          (Answers.keysOf (.str "1")) chosen →
        ∀ block, IsBlockOf sharedForm ⟨[("a", .str "1")]⟩ smokerQuestion block →
          ¬ block.Reads "Smoker" (", ".intercalate (chosen.map (·.text))) := by
  have hvalid : (sharedForm.validate ⟨[("a", .str "1")]⟩).valid = true :=
    valid_of_all (by decide) (by decide) (by decide)
  have hq : smokerQuestion ∈ sharedForm.questions := by decide
  have hreads : ∀ block, IsBlockOf sharedForm ⟨[("a", .str "1")]⟩ smokerQuestion block →
      block.Reads "Smoker" "No" := by
    intro block hblock
    have hvalue : smokerQuestion.displayValue (Answers.get? ⟨[("a", .str "1")]⟩ smokerQuestion.id)
        (.ofForm sharedForm) = "No" := by decide +kernel
    rw [← hvalue]
    exact reads_of_isBlockOf rfl hblock
  obtain ⟨block, hblock⟩ := exists_isBlockOf (seen_sharedForm ⟨[("a", .str "1")]⟩ hq)
  refine ⟨sharedForm_lint, hvalid, hq, rfl, effectiveVisibility_sharedForm _ hq, rfl,
    ⟨block, hblock, hreads block hblock⟩, fun chosen hchosen block hblock hown => ?_⟩
  -- the question has one option, so what is shown would have to be its text
  obtain ⟨c, rest, ⟨hc, -⟩, hrest, rfl⟩ := List.forall₂_cons_left_iff.mp hchosen
  obtain rfl := List.forall₂_nil_left_iff.mp hrest
  obtain rfl := List.mem_singleton.mp hc
  have hvalue : "No" = "Yes" := by
    have hno := hreads block hblock
    cases block with
    | sectionHeader => cases hno
    | row => exact hno.2.symm.trans hown.2
    | standalone => exact hno.2.symm.trans hown.2
  exact absurd hvalue (by decide)

end Questionnaire
