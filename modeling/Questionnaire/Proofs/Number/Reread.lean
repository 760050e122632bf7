import Questionnaire.Proofs.Number.Scan

/-! # Numbers that are read back

`Number.reread?` is what the reader of JSON text makes of the text of a number. A number that comes
back as it was survives (`Number.Survives`). Every integer does (`survives_integer`); a double need
not, since the reader rounds twice, and it may even end up beyond the largest double. -/

namespace Questionnaire

namespace Number

/-- The number that is read from the text of a number. -/
def reread? (n : Number) : Option Number :=
  match Literal.scan? n.jsonText.toList with
  | some (literal, []) => literal.value?
  | _ => none

/-- Some number is read from the text of the number. -/
abbrev Legible (n : Number) : Prop := n.reread?.isSome = true

/-- **The number comes back from its text as it was.** -/
abbrev Survives (n : Number) : Prop := n.reread? = some n

theorem Survives.legible {n : Number} (h : n.Survives) : n.Legible := by
  rw [Legible, h]; rfl

/-- A property of all numbers that survive, which no number loses by being read back. -/
structure Kept (p : Number → Prop) : Prop where
  survives : ∀ n, n.Survives → p n
  reread : ∀ n, p n → p (n.reread?.getD n)

theorem kept_true : Kept fun _ => True := ⟨fun _ _ => trivial, fun _ _ => trivial⟩

/-- Numbers with the property can be read back again and again. -/
structure Lasting (p : Number → Prop) : Prop extends Kept p where
  legible : ∀ n, p n → n.Legible

theorem lasting_survives : Lasting Survives where
  survives _ h := h
  reread n h := by rw [h]; exact h
  legible _ h := h.legible

/-- **A number is found in front of other text.** -/
theorem scan?_jsonText_append (n : Number) {rest : List Char} (hrest : Closes rest) :
    ∃ literal, Literal.scan? (n.jsonText.toList ++ rest) = some (literal, rest) ∧
      literal.value? = n.reread? := by
  obtain ⟨literal, hscan⟩ := exists_scan?_jsonText n
  refine ⟨literal, ?_, ?_⟩
  · rw [Literal.scan?_append hrest, hscan]; rfl
  · unfold reread?; rw [hscan]

/-! ### Integers -/

theorem ofInt?_of_range {n : Int} (range : IntegerRange n) :
    ofInt? n = some (.integer n range) := dif_pos range

section Digits

variable {n : Nat}

/-- The value of digits behind digits read before. -/
abbrev readOn (v : Nat) (ds : List Char) : Nat := ds.foldl (fun n c => 10 * n + digitValue c) v

theorem readOn_digitChars (n : Nat) : readOn 0 (digitChars n) = n := by
  have h := Nat.ofDigitChars_ten_toDigits (n := n)
  rw [Nat.ofDigitChars_eq_foldl] at h
  rw [digitChars_eq_toDigits]
  exact h

theorem le_readOn (v : Nat) (ds : List Char) : v ≤ readOn v ds := by
  induction ds generalizing v with
  | nil => exact Nat.le_refl _
  | cons d ds ih =>
    have hstep : v ≤ 10 * v + digitValue d := by omega
    exact Nat.le_trans hstep (ih _)

theorem takeWhole_cons_of_push? {s : Literal.Significand} {d : Char} {v : Nat}
    (h : s.push? d = some v) (ds : List Char) :
    s.takeWhole (d :: ds) = Literal.Significand.takeWhole ⟨v, s.exponent⟩ ds := by
  simp only [Literal.Significand.takeWhole, h]

/-- Digits of a number that fits in a word are all taken into the significand. -/
theorem takeWhole_of_le (v : Nat) (ds : List Char) (h : readOn v ds ≤ maxWord) :
    Literal.Significand.takeWhole ⟨v, 0⟩ ds = ⟨readOn v ds, 0⟩ := by
  induction ds generalizing v with
  | nil => rfl
  | cons d ds ih =>
    have hfits : 10 * v + digitValue d ≤ maxWord := Nat.le_trans (le_readOn _ ds) h
    have hpush : Literal.Significand.push? ⟨v, 0⟩ d = some (10 * v + digitValue d) := by
      unfold Literal.Significand.push?
      simp [hfits]
    rw [takeWhole_cons_of_push? hpush]
    exact ih _ h

theorem takeWhole_digitChars (h : n ≤ maxWord) :
    Literal.Significand.takeWhole ⟨0, 0⟩ (digitChars n) = ⟨n, 0⟩ := by
  rw [takeWhole_of_le _ _ (by rw [readOn_digitChars]; exact h), readOn_digitChars]

/-- A run of digits that fits in a word, with a sign or without, has the value of an integer. -/
theorem value?_digitChars (h : n ≤ maxWord) (negative : Bool) (hsign : negative = true → 0 < n)
    (hlow : negative = true → -(1 <<< 63) ≤ -(n : Int)) :
    Literal.value? ⟨negative, digitChars n, [], none⟩ =
      ofInt? (if negative then -(n : Int) else n) := by
  unfold Literal.value?
  rw [takeWhole_digitChars h]
  cases negative with
  | false => simp
  | true =>
    have hpos := hsign rfl
    have hbound := hlow rfl
    simp only [and_self, if_true, true_and]
    rw [if_neg (by omega)]

end Digits

/-- **Every integer comes back from its text.** -/
theorem survives_integer (n : Int) (range : IntegerRange n) :
    (Number.integer n range).Survives := by
  have hword : n.natAbs ≤ maxWord := by unfold maxWord; omega
  unfold Survives reread?
  rw [scan?_integer]
  simp only []
  rw [value?_digitChars hword _ (by simp only [decide_eq_true_eq]; omega)
    (by simp only [decide_eq_true_eq]; omega), ← ofInt?_of_range range]
  congr 1
  by_cases hn : n < 0
  · rw [if_pos (decide_eq_true hn)]
    omega
  · rw [if_neg (by simpa using hn)]
    omega

end Number

end Questionnaire
