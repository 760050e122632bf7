import Mathlib.Tactic.IntervalCases
import Questionnaire.Interview.Reply
import Questionnaire.Proofs.Schema.Answers

/-! # Texts that the check accepts

A date is accepted in the form `YYYY-MM-DD`, but with the digits of any script; the documented form
has those of ASCII. A number is accepted if it is a decimal or a word for no finite number, however
large; on the terminal it has to be a decimal below the overflow (`accepted_texts`). -/

namespace Questionnaire

/-! ### Dates -/

/-- **The form `YYYY-MM-DD`**: ten characters, hyphens in the fifth and the eighth place, and digits
in the other ones. -/
structure HasDateForm (digit : Char → Bool) (cs : List Char) : Prop where
  length : cs.length = 10
  hyphens : cs[4]? = some '-' ∧ cs[7]? = some '-'
  digits : ∀ i c, i ≠ 4 → i ≠ 7 → cs[i]? = some c → digit c = true

variable {cs : List Char}

theorem isDateText_iff : isDateText cs = true ↔ HasDateForm Text.isDigit cs := by
  constructor
  · intro h
    unfold isDateText at h
    split at h
    · next a b c d e f g i =>
      refine ⟨rfl, ⟨rfl, rfl⟩, fun place digit hfour hseven hdigit => ?_⟩
      have hplace : place < 10 := by
        by_contra hlarge
        rw [List.getElem?_eq_none (Nat.not_lt.mp hlarge)] at hdigit
        cases hdigit
      have hmem := List.all_eq_true.mp h
      interval_cases place <;> simp_all
    · cases h
  · rintro ⟨hlength, ⟨hfour, hseven⟩, hdigits⟩
    match cs, hlength with
    | [a, b, c, d, x, e, f, y, g, i], _ =>
      obtain rfl : x = '-' := Option.some.inj hfour
      obtain rfl : y = '-' := Option.some.inj hseven
      simp only [isDateText, List.all_cons, List.all_nil, Bool.and_true, Bool.and_eq_true]
      exact ⟨hdigits 0 a (by decide) (by decide) rfl, hdigits 1 b (by decide) (by decide) rfl,
        hdigits 2 c (by decide) (by decide) rfl, hdigits 3 d (by decide) (by decide) rfl,
        hdigits 5 e (by decide) (by decide) rfl, hdigits 6 f (by decide) (by decide) rfl,
        hdigits 8 g (by decide) (by decide) rfl, hdigits 9 i (by decide) (by decide) rfl⟩

/-- **The documented form** is the accepted one with digits of ASCII. -/
theorem hasDateForm_isDigit_iff : HasDateForm Char.isDigit cs ↔
    HasDateForm Text.isDigit cs ∧ ∀ c ∈ cs, c ≠ '-' → c.isDigit = true := by
  constructor
  · rintro ⟨hlength, ⟨hfour, hseven⟩, hdigits⟩
    have hwide : HasDateForm Text.isDigit cs :=
      ⟨hlength, ⟨hfour, hseven⟩, fun i c h4 h7 hc => isDigit_of_isDigit (hdigits i c h4 h7 hc)⟩
    refine ⟨hwide, fun c hc hne => ?_⟩
    obtain ⟨i, hi⟩ := List.getElem?_of_mem hc
    by_cases h4 : i = 4
    · rw [h4, hfour] at hi
      exact absurd (Option.some.inj hi).symm hne
    · by_cases h7 : i = 7
      · rw [h7, hseven] at hi
        exact absurd (Option.some.inj hi).symm hne
      · exact hdigits i c h4 h7 hi
  · rintro ⟨⟨hlength, hhyphens, hdigits⟩, hascii⟩
    refine ⟨hlength, hhyphens, fun i c h4 h7 hc => hascii c (List.mem_of_getElem? hc) ?_⟩
    rintro rfl
    exact absurd (hdigits i '-' h4 h7 hc) (by decide)

/-! ### Both kinds of text -/

section Check
variable {q : Question} {s : String}

theorem check_date_iff (hkind : q.kind = .date) :
    q.check (.str s) = none ↔ HasDateForm Text.isDigit s.toList := by
  unfold Question.check
  rw [hkind, ← isDateText_iff]
  simp

theorem check_number_iff (hkind : q.kind = .number) :
    q.check (.str s) = none ↔ (Number.readReal? (Text.trim s)).isSome = true := by
  unfold Question.check
  rw [hkind]
  dsimp only
  split
  · next hread => exact iff_of_true rfl hread
  · next hread => exact iff_of_false (Option.some_ne_none _) hread

end Check

/-- The terminal takes a number where one can be read. -/
theorem readReply_number_iff {q : Interview.SheetQuestion} (hkind : q.kind = .number) (s : String) :
    (∃ n, Interview.readReply q s = .ok (.num n)) ↔
      (Number.readNumber? (Text.trim s)).isSome = true := by
  unfold Interview.readReply Interview.readTrimmed
  generalize Text.trim s = reply
  by_cases hempty : reply.isEmpty = true
  · obtain rfl := String.isEmpty_iff.mp hempty
    have hnone : Number.readNumber? "" = none := rfl
    simp only [hempty, if_true, hnone]
    cases q.required <;> simp
  · simp only [hempty, hkind]
    cases Number.readNumber? reply <;> simp

open Number in
/-- **The texts that are accepted as dates and numbers.** A text passes the check of a date if it
has the form `YYYY-MM-DD` with digits of any script, so the documented form is that of the accepted
texts whose digits are those of ASCII. It passes the check of a number if without the blanks at its
ends it writes a decimal or is a word for no finite number. Those that are read as a number, on the
terminal too, are the accepted texts that are no such word and write no decimal beyond the largest
double. -/
theorem accepted_texts {date number : Question} {asked : Interview.SheetQuestion}
    (hdate : date.kind = .date) (hnumber : number.kind = .number) (hasked : asked.kind = .number)
    (s : String) :
    (date.check (.str s) = none ↔ HasDateForm Text.isDigit s.toList) ∧
      (HasDateForm Char.isDigit s.toList ↔
        date.check (.str s) = none ∧ ∀ c ∈ s.toList, c ≠ '-' → c.isDigit = true) ∧
      (number.check (.str s) = none ↔
        (∃ negative d, Writes (Text.trim s).toList negative d) ∨ IsWord (Text.trim s).toList) ∧
      ((readNumber? (Text.trim s)).isSome = true ↔
        number.check (.str s) = none ∧ ¬ IsWord (Text.trim s).toList ∧
          ∀ negative d, Writes (Text.trim s).toList negative d → d.toRat < Binary64.overflow) ∧
      ((∃ n, Interview.readReply asked s = .ok (.num n)) ↔
        (readNumber? (Text.trim s)).isSome = true) := by
  rw [check_date_iff hdate, check_number_iff hnumber, isSome_readReal?_iff]
  refine ⟨Iff.rfl, hasDateForm_isDigit_iff, Iff.rfl, ?_, readReply_number_iff hasked s⟩
  rw [isSome_readNumber?_iff]
  constructor
  · rintro ⟨negative, d, hwrites, hsmall⟩
    refine ⟨.inl ⟨negative, d, hwrites⟩, fun hword => hword.not_writes hwrites, fun _ e he => ?_⟩
    rwa [hwrites.unique he]
  · rintro ⟨⟨negative, d, hwrites⟩ | hword, hnot, hsmall⟩
    · exact ⟨negative, d, hwrites, hsmall negative d hwrites⟩
    · exact absurd hword hnot

/-- The question of the bundled form for a date. -/
def referralDate : Question :=
  { Service.bundledQuestion "6" "Referral date" .date (some "4") 1 with required := false }

/-- The question of the bundled form for a number. -/
def hoursWorked : Question :=
  { Service.bundledQuestion "8" "Hours worked per week" .number none 2 with required := false }

theorem mem_bundledForm :
    referralDate ∈ Service.bundledForm.questions ∧ hoursWorked ∈ Service.bundledForm.questions := by
  decide

/-- What the terminal is told of that question. -/
def hoursAsked : Interview.SheetQuestion where
  id := "8"
  text := "Hours worked per week"
  description := none
  placeholder := none
  kind := .number
  depth := 0
  required := false
  multiple := false
  visible := true
  options := []
  displayValue := none

theorem accepted_texts_bundled :
    (referralDate.check (.str "2020-01-12") = none ∧
        ∀ c ∈ "2020-01-12".toList, c ≠ '-' → c.isDigit = true) ∧
      hoursWorked.check (.str " 37.5 ") = none ∧
      (∃ n, Interview.readReply hoursAsked " 37.5 " = .ok (.num n)) ∧
      hoursWorked.check (.str "NaN") = none ∧
      ¬ ∃ n, Interview.readReply hoursAsked "NaN" = .ok (.num n) := by
  obtain ⟨-, hdate, -⟩ := accepted_texts (rfl : referralDate.kind = .date)
    (rfl : hoursWorked.kind = .number) (rfl : hoursAsked.kind = .number) "2020-01-12"
  obtain ⟨-, -, -, hread, hreply⟩ := accepted_texts (rfl : referralDate.kind = .date)
    (rfl : hoursWorked.kind = .number) (rfl : hoursAsked.kind = .number) " 37.5 "
  obtain ⟨-, -, hnan, -, hrefused⟩ := accepted_texts (rfl : referralDate.kind = .date)
    (rfl : hoursWorked.kind = .number) (rfl : hoursAsked.kind = .number) "NaN"
  have hdigits : "2020-01-12".toList.all (fun c => c == '-' || c.isDigit) = true := rfl
  have hform : HasDateForm Char.isDigit "2020-01-12".toList :=
    hasDateForm_isDigit_iff.mpr ⟨isDateText_iff.mp (by decide), fun c hc hne => by
      simpa [hne] using List.all_eq_true.mp hdigits c hc⟩
  have hsome : (Number.readNumber? (Text.trim " 37.5 ")).isSome = true := by decide
  have hword : Number.IsWord (Text.trim "NaN").toList := Number.isWord_iff.mpr (by decide)
  exact ⟨hdate.mp hform, (hread.mp hsome).1, hreply.mpr hsome, hnan.mpr (.inr hword),
    hrefused.not.mpr (by decide)⟩

/-- A date with digits of another script is accepted, and so are texts that write no finite
number. -/
theorem undocumented_texts_are_accepted :
    referralDate ∈ Service.bundledForm.questions ∧
      referralDate.check (.str "\u0662\u0660\u0662\u0660-\u0660\u0661-\u0661\u0662") = none ∧
      ¬ HasDateForm Char.isDigit "\u0662\u0660\u0662\u0660-\u0660\u0661-\u0661\u0662".toList ∧
      hoursWorked ∈ Service.bundledForm.questions ∧
      hoursWorked.check (.str "NaN") = none ∧ Number.readNumber? (Text.trim "NaN") = none ∧
      hoursWorked.check (.str "1e9999") = none ∧
      Number.readNumber? (Text.trim "1e9999") = none := by
  refine ⟨mem_bundledForm.1, by decide, fun h => ?_, mem_bundledForm.2, by decide, by decide,
    by decide, by decide⟩
  exact absurd (h.digits 0 _ (by decide) (by decide) rfl) (by decide)

end Questionnaire
