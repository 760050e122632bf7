import Questionnaire.Writer.Markdown

/-! # Cells

Lines of a table are told apart by line feeds, and cells by the pipes that are not escaped, which
are those with an even number of backslashes in front of them (`openPipes`). A text that can stand
in a cell has neither (`IsCell`), and leaves no backslash open behind it, so that cells can be put
together from such texts. Escaped texts are of this kind, whatever they hold (`isCell_escape`), and
so are the marks of emphasis and the indentation around them (`isCell_indented`). -/

namespace Questionnaire.Markdown

/-! ### Pipes -/

/-- The number of backslashes in a row at the end of a text, which is given from its end. -/
def backslashes (before : List Char) : Nat := (before.takeWhile (· == '\\')).length

/-- The pipes of a text that have an even number of backslashes in a row in front of them. What
stands in front of the text is given from its end. -/
def openPipes (before : List Char) : List Char → Nat
  | [] => 0
  | c :: rest =>
    (if c = '|' ∧ backslashes before % 2 = 0 then 1 else 0) + openPipes (c :: before) rest

theorem openPipes_append (before front back : List Char) :
    openPipes before (front ++ back) =
      openPipes before front + openPipes (front.reverse ++ before) back := by
  induction front generalizing before with
  | nil => simp [openPipes]
  | cons c front ih =>
    rw [List.cons_append, openPipes, openPipes, ih, List.reverse_cons, List.append_assoc,
      Nat.add_assoc]
    rfl

theorem backslashes_cons (before : List Char) :
    backslashes ('\\' :: before) = backslashes before + 1 := by
  simp [backslashes]

theorem backslashes_cons_of_ne {c : Char} (h : c ≠ '\\') (before : List Char) :
    backslashes (c :: before) = 0 := by
  simp [backslashes, h]

/-! ### Texts of cells -/

/-- **The text can stand in a cell**: it is on one line, ends no cell, and leaves no backslash open,
wherever there is none open in front of it. -/
structure IsCell (text : List Char) : Prop where
  oneLine : '\n' ∉ text
  pipes (before : List Char) (h : backslashes before % 2 = 0) : openPipes before text = 0
  settled (before : List Char) (h : backslashes before % 2 = 0) :
    backslashes (text.reverse ++ before) % 2 = 0

theorem isCell_nil : IsCell [] where
  oneLine := by simp
  pipes _ _ := rfl
  settled _ h := h

theorem IsCell.append {front back : List Char} (hfront : IsCell front) (hback : IsCell back) :
    IsCell (front ++ back) where
  oneLine := by
    rw [List.mem_append, not_or]
    exact ⟨hfront.oneLine, hback.oneLine⟩
  pipes before h := by
    rw [openPipes_append, hfront.pipes before h, hback.pipes _ (hfront.settled before h)]
  settled before h := by
    rw [List.reverse_append, List.append_assoc]
    exact hback.settled _ (hfront.settled before h)

/-- The character means nothing to a table. -/
def isPlain (c : Char) : Bool := c != '\n' && c != '|' && c != '\\'

theorem isCell_char {c : Char} (h : isPlain c = true) : IsCell [c] := by
  simp only [isPlain, Bool.and_eq_true, bne_iff_ne] at h
  obtain ⟨⟨hfeed, hpipe⟩, hbackslash⟩ := h
  refine ⟨by simpa using hfeed.symm, fun before _ => ?_, fun before _ => ?_⟩
  · simp [openPipes, hpipe]
  · rw [List.reverse_singleton, List.singleton_append, backslashes_cons_of_ne hbackslash]

theorem isCell_plain {text : List Char} (h : text.all isPlain = true) : IsCell text := by
  induction text with
  | nil => exact isCell_nil
  | cons c text ih =>
    rw [List.all_cons, Bool.and_eq_true] at h
    exact (isCell_char h.1).append (ih h.2)

/-- A character behind a backslash. -/
theorem isCell_escaped {c : Char} (hfeed : c ≠ '\n') : IsCell ['\\', c] where
  oneLine := by simpa using hfeed.symm
  pipes before h := by
    have hodd : backslashes ('\\' :: before) % 2 ≠ 0 := by
      rw [backslashes_cons]
      omega
    simp [openPipes, hodd]
  settled before h := by
    change backslashes (c :: '\\' :: before) % 2 = 0
    by_cases hc : c = '\\'
    · rw [hc, backslashes_cons, backslashes_cons]
      omega
    · rw [backslashes_cons_of_ne hc]

theorem isCell_flatten {texts : List (List Char)} (h : ∀ text ∈ texts, IsCell text) :
    IsCell texts.flatten := by
  induction texts with
  | nil => exact isCell_nil
  | cons text texts ih =>
    rw [List.forall_mem_cons] at h
    exact h.1.append (ih h.2)

/-- **An escaped text can stand in a cell.** -/
theorem isCell_escape (text : String) : IsCell (escape text) := by
  refine isCell_flatten fun piece hpiece => ?_
  obtain ⟨c, -, rfl⟩ := List.mem_map.mp hpiece
  unfold escapeChar
  split
  · next hspecial =>
    refine isCell_escaped ?_
    rintro rfl
    revert hspecial
    decide
  · next hspecial =>
    split
    · exact isCell_char (by decide)
    · next hfeed =>
      have hpipe : c ≠ '|' := by
        rintro rfl
        exact hspecial (by decide)
      have hbackslash : c ≠ '\\' := by
        rintro rfl
        exact hspecial (by decide)
      exact isCell_char (by simp [isPlain, hfeed, hpipe, hbackslash])

theorem isCell_asterisks : IsCell ['*', '*'] := isCell_plain (by decide)

theorem isCell_emphasised (run : TextRun) : IsCell (emphasised run) := by
  unfold emphasised
  dsimp only
  split
  · exact (isCell_asterisks.append (isCell_escape run.text)).append isCell_asterisks
  · exact isCell_escape run.text

theorem isCell_indentation (indent : UInt32) : IsCell (indentation indent) := by
  refine isCell_flatten fun piece hpiece => ?_
  rw [List.eq_of_mem_replicate hpiece]
  exact isCell_plain (by decide)

theorem isCell_indented (run : TextRun) (indent : UInt32) : IsCell (indented run indent) :=
  (isCell_indentation indent).append (isCell_emphasised run)

end Questionnaire.Markdown
