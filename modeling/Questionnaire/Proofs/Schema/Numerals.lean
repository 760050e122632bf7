import Questionnaire.AnswerSchema
import Questionnaire.Proofs.Number.Typed
import Questionnaire.Text.Blank

/-! # The pattern of numbers

The schemas of answers have one pattern, for numbers that are given as text. A text that it is found
in is a numeral (`exists_isNumeral`), and numerals are read as real numbers
(`isSome_readReal?_trim`). -/

namespace Questionnaire

/-! ### Numerals -/

/-- The pattern of numbers, taken apart: a sign, digits, and digits behind a point. -/
def numericRegex : Regex where
  fromStart := true
  body := 1 * (1 + .char '-') * (Regex.digit * Regex.digit.star) *
    (1 + 1 * .char '.' * (Regex.digit * Regex.digit.star))
  toEnd := true

theorem ofText?_numericPattern : Regex.ofText? numericPattern = some numericRegex := rfl

/-- A sign or none, digits, and more digits behind a point or none. -/
structure IsNumeral (sign whole fraction : List Char) : Prop where
  sign : sign = [] ∨ sign = ['-']
  whole : Regex.AreDigits whole
  fraction : fraction = [] ∨ ∃ decimals, fraction = '.' :: decimals ∧ Regex.AreDigits decimals

/-- **A text with the pattern of numbers is a numeral.** -/
theorem exists_isNumeral {cs : List Char} (h : cs ∈ numericRegex.language) :
    ∃ sign whole fraction, cs = sign ++ (whole ++ fraction) ∧ IsNumeral sign whole fraction := by
  rw [Regex.language_of_edges rfl rfl, numericRegex] at h
  obtain ⟨front, hfront, fraction, hfraction, rfl⟩ := Language.mem_mul.mp h
  obtain ⟨sign, hsign, whole, hwhole, rfl⟩ := Language.mem_mul.mp hfront
  rw [RegularExpression.matches'_mul, RegularExpression.matches'_epsilon, one_mul] at hsign
  refine ⟨sign, whole, fraction, List.append_assoc .., Regex.mem_optional.mp hsign,
    Regex.areDigits_of_mem hwhole, ?_⟩
  rcases Regex.mem_optional.mp hfraction with rfl | hpoint
  · exact .inl rfl
  · rw [RegularExpression.matches'_mul, RegularExpression.matches'_mul,
      RegularExpression.matches'_epsilon, one_mul] at hpoint
    obtain ⟨_, rfl, decimals, hdecimals, rfl⟩ := Language.mem_mul.mp hpoint
    exact .inr ⟨decimals, rfl, Regex.areDigits_of_mem hdecimals⟩

/-! ### Reading numerals -/

theorem isBlank_of_isDigit {c : Char} (h : c.isDigit = true) : Text.isBlank c = false := by
  simp only [Char.isDigit, Bool.and_eq_true, decide_eq_true_eq, ge_iff_le, UInt32.le_iff_toNat_le,
    Char.toNat_val] at h
  simp only [Text.isBlank, Bool.or_eq_false_iff, Bool.and_eq_false_iff, decide_eq_false_iff_not,
    beq_eq_false_iff_ne]
  obtain ⟨hlow, hhigh⟩ := h
  change 48 ≤ c.toNat at hlow
  change c.toNat ≤ 57 at hhigh
  omega

theorem trim_of_forall {s : String} (h : ∀ c ∈ s.toList, Text.isBlank c = false) :
    Text.trim s = s := by
  have htrim : ∀ cs : List Char, (∀ c ∈ cs, Text.isBlank c = false) → Text.trimStart cs = cs := by
    intro cs hcs
    cases cs with
    | nil => rfl
    | cons c cs => exact List.dropWhile_cons_of_neg (by rw [hcs c (by simp)]; decide)
  unfold Text.trim Text.trimChars Text.trimEnd
  rw [htrim _ h, htrim _ fun c hc => h c (List.mem_reverse.mp hc), List.reverse_reverse,
    String.ofList_toList]

/-- A numeral writes a decimal. -/
theorem IsNumeral.exists_writes {sign whole fraction : List Char}
    (h : IsNumeral sign whole fraction) :
    ∃ negative d, Number.Writes (sign ++ (whole ++ fraction)) negative d := by
  obtain ⟨negative, hsign⟩ : ∃ negative, Number.IsSign sign negative := by
    rcases h.sign with rfl | rfl
    · exact ⟨_, .absent⟩
    · exact ⟨_, .minus⟩
  obtain ⟨decimals, hfraction, hdecimals⟩ : ∃ decimals, Number.IsFraction fraction decimals ∧
      ∀ c ∈ decimals, c.isDigit = true := by
    rcases h.fraction with rfl | ⟨decimals, rfl, hdecimals⟩
    · exact ⟨[], .absent, by simp⟩
    · exact ⟨decimals, .point _, hdecimals.isDigit⟩
  have hdigits : Regex.AreDigits (whole ++ decimals) :=
    ⟨List.append_ne_nil_of_left_ne_nil h.whole.ne_nil _, fun c hc =>
      (List.mem_append.mp hc).elim (h.whole.isDigit c) (hdecimals c)⟩
  have hwrites := Number.Writes.parts hsign hfraction hdigits .absent
  rw [List.append_nil] at hwrites
  exact ⟨negative, _, hwrites⟩

theorem IsNumeral.isBlank_eq_false {sign whole fraction : List Char}
    (h : IsNumeral sign whole fraction) :
    ∀ c ∈ sign ++ (whole ++ fraction), Text.isBlank c = false := by
  intro c hc
  rw [List.mem_append, List.mem_append] at hc
  rcases hc with hc | hc | hc
  · rcases h.sign with rfl | rfl
    · cases hc
    · rw [List.mem_singleton.mp hc]
      decide
  · exact isBlank_of_isDigit (h.whole.isDigit c hc)
  · rcases h.fraction with rfl | ⟨decimals, rfl, hdecimals⟩
    · cases hc
    · rcases List.mem_cons.mp hc with rfl | hc
      · decide
      · exact isBlank_of_isDigit (hdecimals.isDigit c hc)

/-- **Texts with the pattern of numbers are read as numbers.** -/
theorem isSome_readReal?_trim {s : String} (h : s.toList ∈ numericRegex.language) :
    (Number.readReal? (Text.trim s)).isSome = true := by
  obtain ⟨sign, whole, fraction, hs, hnumeral⟩ := exists_isNumeral h
  rw [trim_of_forall (hs ▸ hnumeral.isBlank_eq_false), Number.isSome_readReal?_iff, hs]
  exact .inl hnumeral.exists_writes

end Questionnaire
