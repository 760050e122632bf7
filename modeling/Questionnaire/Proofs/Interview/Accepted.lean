import Mathlib.Data.List.Nodup
import Questionnaire.Proofs.Interview.Reply
import Questionnaire.Proofs.Validation.Report

/-! # Replies that are accepted

A reply is taken by what the sheet tells of a question, and the answer is validated by what the form
says of it. The two agree: whatever is accepted for a question that is not asked for a date, is an
answer to it that validation has nothing against, and what is accepted where several options may be
selected names some of them, none twice (`accepted_reply_is_valid`). -/

namespace Questionnaire.Interview

open Outline

variable {form : Form} {answers : Answers}

/-! ### Choices -/

/-- No option is selected twice. -/
theorem nodup_of_select {options : List PreviewOption} {tokens : List String} :
    ∀ {selected ids : List String}, selected.Nodup → select options selected tokens = .ok ids →
      ids.Nodup := by
  induction tokens with
  | nil =>
    intro selected ids hnodup h
    obtain rfl := Except.ok.inj h
    exact hnodup
  | cons token tokens ih =>
    intro selected ids hnodup h
    rw [select] at h
    split at h
    · cases h
    · next id _ =>
      refine ih ?_ h
      by_cases hid : id ∈ selected
      · rwa [if_pos (List.contains_iff_mem.mpr hid)]
      · rw [if_neg (by simpa using hid), ← List.concat_eq_append]
        exact hnodup.concat hid

/-- **The value names options of the question**, one or more, and none of them twice. -/
structure Selects (q : Question) (ids : List String) (value : Json) : Prop where
  value : value = .arr (ids.map .str)
  nonempty : ids ≠ []
  nodup : ids.Nodup
  offered : ∀ id ∈ ids, q.offers id = true

section Reply
variable {sq : SheetQuestion} {q : Question} {line : String} {value : Json}

theorem readReply_of_multiple (hkind : sq.kind = .multipleChoice)
    (h : readReply sq line = .ok value) (hnull : value ≠ .null) :
    readChoice sq (Text.trim line) = .ok value := by
  unfold readReply readTrimmed at h
  rw [hkind] at h
  split at h
  · split at h
    · cases h
    · exact absurd (Except.ok.inj h).symm hnull
  · exact h

/-- What is accepted where several options may be selected. -/
theorem Describes.selects (hq : Describes sq q) (hmultiple : sq.multiple = true)
    (hkind : q.kind = .multipleChoice) (h : Interview.readReply sq line = .ok value)
    (hnull : value ≠ .null) : ∃ ids, Selects q ids value := by
  have hchoice := readReply_of_multiple (hq.kind.trans hkind) h hnull
  obtain ⟨id, ids, hselect, rfl⟩ := exists_of_readChoice hchoice
  refine ⟨id :: ids, if_pos hmultiple, by simp, nodup_of_select List.nodup_nil hselect, ?_⟩
  intro id' hid
  rcases select_mem hselect id' hid with hmem | ⟨o, ho, rfl⟩
  · cases hmem
  · exact hq.options o ho

/-- What is accepted passes the check, unless a date is asked for. -/
theorem Describes.check (hq : Describes sq q) (hsection : q.isSection = false)
    (hdate : q.kind ≠ .date) (h : Interview.readReply sq line = .ok value) (hnull : value ≠ .null) :
    q.check value = none := by
  have hanswer := hq.readReply hsection (p := fun _ => True) (fun _ _ => trivial) h
  rcases hanswer with ⟨rfl, -⟩ | hgood
  · exact absurd rfl hnull
  · rcases hgood.passes with hpasses | ⟨hkind, -⟩
    · exact hpasses.check
    · exact absurd hkind hdate

end Reply

/-! ### Answers -/

/-- An answer that passes the check of its question has no error. -/
theorem ne_of_mem_errors_insert (hids : form.DistinctIds) {q : Question} (hq : q ∈ form.questions)
    {value : Json} (hcheck : q.check value = none) {e : ValidationError}
    (he : e ∈ (form.validate (answers.insert q.id value)).errors) : e.question ≠ q.id := by
  obtain ⟨q', value', hseen, -, hgiven, hcheck', hid'⟩ := (mem_errors_iff hids).mp he
  rw [← hid']
  intro hid
  obtain rfl := hids.eq_of_id hseen.mem hq hid
  have hget := Answers.get?_of_given? hgiven
  rw [Answers.get?_insert_self] at hget
  obtain rfl := Option.some.inj hget
  rw [hcheck] at hcheck'
  cases hcheck'

theorem multiple_ofPreview (node : Node) (visibility : VisibilityMap) (answers : Answers)
    (labels : Labels) :
    (SheetQuestion.ofPreview (.ofNode node visibility answers labels)).multiple =
      node.question.isMultiSelect := by
  change (decide (node.question.kind = .multipleChoice) && node.question.isMultiSelect) = _
  by_cases hkind : node.question.kind = .multipleChoice <;> simp [Question.isMultiSelect, hkind]

/-- The question of the form behind a question of the sheet. -/
theorem exists_of_mem_sheet {sq : SheetQuestion}
    (h : sq ∈ (Sheet.ofPreview (form.preview answers)).questions) :
    ∃ q ∈ form.questions, Describes sq q ∧ sq.multiple = q.isMultiSelect := by
  obtain ⟨pq, hpq, rfl⟩ := List.mem_map.mp h
  obtain ⟨node, hnode, rfl⟩ := List.mem_map.mp hpq
  obtain ⟨e, he, hq⟩ := mem_walk_iff.mp ⟨node, hnode, rfl⟩
  exact ⟨node.question, hq ▸ he.isEntry.mem, describes_ofPreview node _ answers _,
    multiple_ofPreview node _ answers _⟩

/-- **An accepted reply is a valid answer.** The sheet that is read off the preview has only
questions of the form. Whatever line is accepted for one that can be answered, and not with a date,
validation has nothing against the answer when it is put in; and if several options may be selected,
the answer names some of them, none twice. -/
theorem accepted_reply_is_valid (form : Form) (hids : form.DistinctIds) (answers : Answers) :
    ∃ sheet, Sheet.ofJson (form.preview answers).toJson = .ok sheet ∧
      ∀ sq ∈ sheet.questions, ∃ q ∈ form.questions, q.id.text = sq.id ∧ q.kind = sq.kind ∧
        (q.isSection = false → q.kind ≠ .date → ∀ line value,
          readReply sq line = .ok value → value ≠ .null →
            (∀ e ∈ (form.validate (answers.insert q.id value)).errors, e.question ≠ q.id) ∧
            (q.isMultiSelect = true → ∃ ids, Selects q ids value)) := by
  have hread := Sheet.ofJson_passed (form.preview answers) passage_id
  rw [id_eq] at hread
  refine ⟨_, hread, fun sq hsq => ?_⟩
  obtain ⟨q, hq, hdescribes, hmultiple⟩ := exists_of_mem_sheet hsq
  refine ⟨q, hq, hdescribes.id.symm, hdescribes.kind.symm,
    fun hsection hdate line value h hnull => ⟨fun e he => ?_, fun hseveral => ?_⟩⟩
  · exact ne_of_mem_errors_insert hids hq (hdescribes.check hsection hdate h hnull) he
  · have hkind : q.kind = .multipleChoice := by
      simp only [Question.isMultiSelect, Bool.and_eq_true, beq_iff_eq] at hseveral
      exact hseveral.1
    exact hdescribes.selects (hmultiple.trans hseveral) hkind h hnull

/-! ### Ids that look like places -/

/-- A question with two options, of which the first has the place of the second as its id. -/
def colourQuestion : Question :=
  ⟨⟨"c"⟩, "Colours", .multipleChoice, none, 0, true, true, none, none,
    [⟨⟨"2"⟩, "Red", none, 0⟩, ⟨⟨"7"⟩, "Blue", none, 1⟩]⟩

/-- A form that asks for colours. -/
def colourForm : Form := ⟨⟨"f"⟩, "Colours", none, [colourQuestion], []⟩

theorem orderedOptions_colourQuestion :
    colourQuestion.orderedOptions = colourQuestion.options :=
  List.mergeSort_of_pairwise (by decide)

/-- The second option by its id, the first by its id and again by its place. -/
theorem accepted_reply_is_valid_colours :
    colourForm.DistinctIds ∧
      ∃ sheet, Sheet.ofJson (colourForm.preview .empty).toJson = .ok sheet ∧
        ∃ sq ∈ sheet.questions,
          readReply sq " 7, 2,+1,, " = .ok (.arr [.str "7", .str "2"]) ∧
          (∀ e ∈ (colourForm.validate
              (Answers.empty.insert ⟨"c"⟩ (.arr [.str "7", .str "2"]))).errors,
            e.question ≠ ⟨"c"⟩) ∧
          ∃ ids, Selects colourQuestion ids (.arr [.str "7", .str "2"]) := by
  have hids : colourForm.DistinctIds := by decide
  have hseen : Seen colourForm .empty colourQuestion :=
    (seen_iff_of_top List.mem_cons_self rfl).mpr rfl
  obtain ⟨⟨_, depth⟩, hnode, rfl, -⟩ := exists_node_of_seen hids hseen
  let sq := SheetQuestion.ofPreview (.ofNode ⟨colourQuestion, depth⟩
    (colourForm.effectiveVisibility .empty) .empty (.ofForm colourForm))
  have hreply : readReply sq " 7, 2,+1,, " = .ok (.arr [.str "7", .str "2"]) := by
    have hoptions : sq.options = [⟨"2", "Red"⟩, ⟨"7", "Blue"⟩] := by
      change colourQuestion.orderedOptions.map _ = _
      rw [orderedOptions_colourQuestion]
      rfl
    have hkind : sq.kind = .multipleChoice := rfl
    have hmultiple : sq.multiple = true := rfl
    have hselect : select [⟨"2", "Red"⟩, ⟨"7", "Blue"⟩] [] (tokens true (Text.trim " 7, 2,+1,, ")) =
        .ok ["7", "2"] := by decide +kernel
    have hempty : (Text.trim " 7, 2,+1,, ").isEmpty = false := by decide +kernel
    unfold readReply readTrimmed readChoice
    rw [hkind, hmultiple, hoptions, hselect, hempty]
    rfl
  obtain ⟨sheet, hsheet, hreplies⟩ := accepted_reply_is_valid colourForm hids .empty
  -- the sheet is that of the preview, so it has the question
  have hread := Sheet.ofJson_passed (colourForm.preview .empty) passage_id
  rw [id_eq, hsheet] at hread
  obtain rfl := Except.ok.inj hread
  have hmem : sq ∈ (Sheet.ofPreview (colourForm.preview .empty)).questions :=
    List.mem_map_of_mem (List.mem_map_of_mem hnode)
  obtain ⟨q, hq, -, -, hvalid⟩ := hreplies sq hmem
  obtain rfl := List.mem_singleton.mp hq
  obtain ⟨herrors, hseveral⟩ := hvalid rfl (by decide) _ _ hreply fun h => by cases h
  exact ⟨hids, _, hsheet, sq, hmem, hreply, herrors, hseveral rfl⟩

end Questionnaire.Interview
