import Mathlib.Tactic.IntervalCases
import Mathlib.Tactic.NormNum
import Mathlib.Tactic.Ring
import Mathlib.Tactic.SplitIfs
import Questionnaire.Proofs.Number.Rounding
import Questionnaire.Proofs.Number.Scan

/-! # The digits of a double

What is written of a double in JSON text and in a key are the same digits, unless the double lies
midway between two decimals (`Binary64.shortest_even_eq_or_midway`).

Between `2 ^ 63` and `2 ^ 64` the doubles are the multiples of `2048`, and a number is read as the
nearest of them (`IsAbove.reads_iff`). The key of such a double is not its value but the shortest
number that reads back: of the numbers read as the double, one with the most zeros at its end, and
of those the nearest (`IsShortest`). The scan of the decimal grids finds it (`exists_firstHit`),
there is no other one (`IsAbove.shortest_unique`), so that the rule for equal distances does not
matter here, and the key is its digits (`IsAbove.keyText_eq`). -/

namespace Questionnaire.Number

/-! ### Digits with zeros behind them -/

theorem digitChars_mul_pow {d : ℕ} (hd : 0 < d) (k : ℕ) :
    digitChars (d * 10 ^ k) = digitChars d ++ List.replicate k '0' := by
  induction k with
  | zero => simp
  | succ k ih =>
    calc digitChars (d * 10 ^ (k + 1)) = digitChars (10 * (d * 10 ^ k) + 0) := by
          rw [pow_succ']
          ring_nf
      _ = digitChars (d * 10 ^ k) ++ ['0'] := by
          rw [digitChars_eq_toDigits, digitChars_eq_toDigits, ← Nat.toDigits_append_toDigits
            (by norm_num) (Nat.mul_pos hd (Nat.pow_pos (by norm_num))) (by norm_num)]
          rfl
      _ = digitChars d ++ List.replicate (k + 1) '0' := by
          rw [ih, List.append_assoc, List.replicate_succ']

/-- The number that a decimal without a fraction writes. -/
def Decimal.IsWhole (d : Decimal) (n : ℕ) : Prop :=
  ∃ k : ℕ, d.exponent = k ∧ d.digits * 10 ^ k = n

namespace Decimal.IsWhole
variable {d : Decimal} {n : ℕ}

theorem dropZero (h : d.IsWhole n) : d.dropZero.IsWhole n := by
  obtain ⟨k, hk, hn⟩ := h
  unfold Decimal.dropZero
  split
  · next hzero =>
    refine ⟨k + 1, by simp [hk], ?_⟩
    calc d.digits / 10 * 10 ^ (k + 1) = d.digits / 10 * 10 * 10 ^ k := by ring
      _ = n := by rw [Nat.div_mul_cancel (Nat.dvd_of_mod_eq_zero hzero), hn]
  · exact ⟨k, hk, hn⟩

theorem dropZeros (h : d.IsWhole n) (count : ℕ) : (d.dropZeros count).IsWhole n := by
  induction count generalizing d with
  | zero => exact h
  | succ count ih =>
    rw [Decimal.dropZeros]
    split
    · exact ih h.dropZero
    · exact h

theorem positionalText (h : d.IsWhole n) (hn : 0 < n) :
    Binary64.positionalText d false = toString n := by
  obtain ⟨k, hk, rfl⟩ := h
  have hdigits : 0 < d.digits := Nat.pos_of_mul_pos_right hn
  obtain ⟨c, cs, hcs, -⟩ := exists_digitChars_eq d.digits
  have hpositional : d.positional = (digitChars d.digits ++ List.replicate k '0', []) := by
    have hbefore : ((digitChars d.digits).length + (k : ℤ)).toNat =
        (digitChars d.digits).length + k := by omega
    have hlength : (digitChars d.digits).length = cs.length + 1 := by rw [hcs, List.length_cons]
    unfold Decimal.positional
    dsimp only
    rw [hk, if_neg (by omega), hbefore, List.take_of_length_le (by omega),
      List.drop_of_length_le (by omega), Nat.add_sub_cancel_left]
  unfold Binary64.positionalText
  rw [hpositional, ← digitChars_mul_pow hdigits]
  have hne : (digitChars (d.digits * 10 ^ k)).isEmpty = false := by
    rw [digitChars_mul_pow hdigits, hcs]
    rfl
  simp only [hne, Bool.and_false, List.isEmpty_nil, if_true, Bool.false_eq_true, if_false]
  exact String.ofList_toList

end Decimal.IsWhole

namespace Binary64

/-! ### Two rules for equal distances -/

/-- The double lies midway between a point of the grid of `10 ^ k` and the next one. -/
def IsMidway (x : Binary64) (k : ℤ) (d : ℕ) : Prop :=
  2 * (4 * x.mantissa * (x.gridScale k).1) = (2 * d + 1) * (x.gridScale k).2

theorem onGrid?_even_eq_or_midway (x : Binary64) (k : ℤ) :
    x.onGrid? .even k = x.onGrid? .greater k ∨
      ∃ d, x.IsMidway k d ∧ d % 2 = 0 ∧
        x.onGrid? .even k = some ⟨d, k⟩ ∧ x.onGrid? .greater k = some ⟨d + 1, k⟩ := by
  unfold onGrid? IsMidway TieRule.keepsLower
  obtain ⟨p, q⟩ := x.gridScale k
  dsimp only
  have hlow := Nat.div_mul_le_self (4 * x.mantissa * p) q
  generalize 4 * x.mantissa * p / q = d at hlow
  split
  · -- both neighbours round to the double, so the rules part where they are equally far
    by_cases htie : 4 * x.mantissa * p - d * q = (d + 1) * q - 4 * x.mantissa * p ∧ d % 2 = 0
    · obtain ⟨hmidway, heven⟩ := htie
      refine .inr ⟨d, ?_, heven, by simp [hmidway, heven], by simp [hmidway]⟩
      have hnext : (d + 1) * q = d * q + q := by ring
      have hmiddle : (2 * d + 1) * q = d * q + (d * q + q) := by ring
      omega
    · left
      simp only [beq_iff_eq, htie, Bool.false_eq_true, and_false]
  · exact .inl rfl
  · exact .inl rfl
  · exact .inl rfl

theorem firstHit_even_eq_or_midway (x : Binary64) (n : ℕ) (k : ℤ) :
    x.firstHit .even n k = x.firstHit .greater n k ∨
      ∃ d j, x.IsMidway j d ∧ d % 2 = 0 ∧
        x.firstHit .even n k = ⟨d, j⟩ ∧ x.firstHit .greater n k = ⟨d + 1, j⟩ := by
  induction n generalizing k with
  | zero => exact .inl rfl
  | succ n ih =>
    rw [firstHit, firstHit]
    obtain heq | ⟨d, hmidway, heven, hlower, hgreater⟩ := x.onGrid?_even_eq_or_midway k
    · rw [heq]
      cases x.onGrid? .greater k with
      | none => exact ih (k - 1)
      | some d => exact .inl rfl
    · rw [hlower, hgreater]
      exact .inr ⟨d, k, hmidway, heven, rfl, rfl⟩

/-- **The digits of a double in JSON text and in a key are the same**, unless it lies midway between
two decimals: then the text has those of the even one and the key those of the greater one. -/
theorem shortest_even_eq_or_midway (x : Binary64) :
    x.shortest .even = x.shortest .greater ∨
      ∃ d j, x.IsMidway j d ∧ d % 2 = 0 ∧
        x.shortest .even = Decimal.dropZeros 20 ⟨d, j⟩ ∧ x.shortest .greater = ⟨d + 1, j⟩ := by
  unfold shortest
  split_ifs
  · exact .inl rfl
  · obtain heq | ⟨d, j, hmidway, heven, hlower, hgreater⟩ :=
      x.firstHit_even_eq_or_midway 24 x.decimalBound
    · exact .inl (congrArg _ heq)
    · refine .inr ⟨d, j, hmidway, heven, congrArg _ hlower, ?_⟩
      have hodd : ¬ (d + 1) % 10 = 0 := by omega
      rw [hgreater, Decimal.dropZeros, if_neg hodd]

/-- The two texts of `100000000000000.125`. -/
example :
    let x : Binary64 := ⟨false, 6400000000000008, -6, by decide⟩
    x.jsonText = "100000000000000.12" ∧ x.keyText = "100000000000000.13" := by
  decide +kernel

/-! ### Doubles above the signed integers -/

/-- A positive double whose unit is `2 ^ 11`, above the least one. -/
structure IsAbove (x : Binary64) : Prop where
  positive : x.negative = false
  exponent : x.exponent = 11
  mantissa : 2 ^ 52 < x.mantissa

/-- How far a number is from the double. -/
def gap (x : Binary64) (t : ℕ) : ℕ := ((t : ℤ) - (x.mantissa * 2048 : ℕ)).natAbs

/-- A number that reads as the double and ends in `k` zeros; and no number that ends in them is
nearer. -/
structure IsWritten (x : Binary64) (k s : ℕ) : Prop where
  reads : ofNat? false s = some x
  zeros : 10 ^ k ∣ s
  nearest : ∀ t, 10 ^ k ∣ t → x.gap s ≤ x.gap t

/-- **The shortest number that reads as the double**: none that ends in more zeros does. -/
def IsShortest (x : Binary64) (s : ℕ) : Prop :=
  ∃ k, x.IsWritten k s ∧ ∀ t, 10 ^ (k + 1) ∣ t → ofNat? false t ≠ some x

theorem IsShortest.reads {x : Binary64} {s : ℕ} (h : x.IsShortest s) : ofNat? false s = some x :=
  h.choose_spec.1.reads

section Above
variable {x : Binary64}

theorem isAbove_of_toRat {n : ℤ} (h : x.toRat = n) (hlow : 2 ^ 63 < n) (hhigh : n < 2 ^ 64) :
    x.IsAbove ∧ n = (x.mantissa * 2048 : ℕ) := by
  have hvalue := natAbs_of_toRat h
  obtain ⟨hmantissa, -, -, hbits⟩ := x.canonical
  have hpositive : x.negative = false := by
    have hint := toInt_of_toRat h
    unfold toInt at hint
    split at hint
    · omega
    · next hfalse => simpa using hfalse
  have hexponent : x.exponent = 11 := by
    rcases Int.le_total x.exponent 0 with he | he
    · have hpow := Nat.two_pow_pos (-x.exponent).toNat
      rw [Int.toNat_of_nonpos he, pow_zero, mul_one] at hvalue
      have := Nat.le_mul_of_pos_right n.natAbs hpow
      omega
    · obtain ⟨e, he⟩ := Int.eq_ofNat_of_zero_le he
      rw [he] at hvalue hbits ⊢
      have hbits : 2 ^ 52 ≤ x.mantissa := by omega
      rw [Int.toNat_natCast, Int.toNat_of_nonpos (by omega), pow_zero, mul_one] at hvalue
      have hlt : e < 12 := by
        by_contra hge
        have := Nat.mul_le_mul hbits (Nat.pow_le_pow_right two_pos (show 12 ≤ e by omega))
        omega
      have hge : 11 ≤ e := by
        by_contra hlt
        have := Nat.mul_le_mul (show x.mantissa ≤ 2 ^ 53 by omega)
          (Nat.pow_le_pow_right two_pos (show e ≤ 10 by omega))
        omega
      omega
  have hn : n = (x.mantissa * 2048 : ℕ) := by
    have hpow : x.mantissa * 2 ^ (11 : ℤ).toNat = n.natAbs * 2 ^ (-11 : ℤ).toNat := by
      rw [hexponent] at hvalue
      exact hvalue
    rw [show (11 : ℤ).toNat = 11 from rfl, show (-11 : ℤ).toNat = 0 from rfl] at hpow
    omega
  exact ⟨⟨hpositive, hexponent, by omega⟩, hn⟩

/-- The numbers of a grid below the double are no nearer than the greatest of them, those above it
no nearer than the least. -/
theorem gap_neighbour_le {k d t : ℕ} (hlow : d * 10 ^ k ≤ x.mantissa * 2048)
    (hhigh : x.mantissa * 2048 < (d + 1) * 10 ^ k) (ht : 10 ^ k ∣ t) :
    x.gap (d * 10 ^ k) ≤ x.gap t ∨ x.gap ((d + 1) * 10 ^ k) ≤ x.gap t := by
  obtain ⟨c, rfl⟩ := ht
  rw [Nat.mul_comm (10 ^ k)]
  rcases Nat.lt_or_ge d c with hc | hc
  · have := Nat.mul_le_mul_right (10 ^ k) (show d + 1 ≤ c from hc)
    right
    unfold gap
    omega
  · have := Nat.mul_le_mul_right (10 ^ k) hc
    left
    unfold gap
    omega

variable (hx : x.IsAbove)
include hx

theorem IsAbove.toRat_eq : x.toRat = ((x.mantissa * 2048 : ℕ) : ℤ) := by
  rw [toRat, hx.positive, hx.exponent]
  norm_num

/-- Half a unit away a number is read as the double if its mantissa is even. -/
theorem IsAbove.reads_iff {t : ℕ} :
    ofNat? false t = some x ↔ x.gap t ≤ 1024 ∧ (x.mantissa % 2 = 1 → x.gap t < 1024) := by
  have hunits : inUnits t 1 x.exponent = (t, 2048) := by
    rw [hx.exponent]
    exact Prod.ext (Nat.shiftLeft_zero) rfl
  rw [ofNat?, ofRatio?_eq_some_iff one_pos hx.mantissa, hunits, gap]
  constructor
  · rintro ⟨-, hlow, hhigh, hodd⟩
    constructor
    · omega
    · omega
  · rintro ⟨hgap, hodd⟩
    refine ⟨hx.positive, ?_, ?_, fun h => ?_⟩ <;> omega

theorem IsAbove.reads_of_gap_le {s t : ℕ} (h : x.gap s ≤ x.gap t)
    (ht : ofNat? false t = some x) : ofNat? false s = some x := by
  rw [hx.reads_iff] at ht ⊢
  omega

theorem IsAbove.reads_value : ofNat? false (x.mantissa * 2048) = some x := by
  rw [hx.reads_iff, gap, sub_self]
  exact ⟨by norm_num, fun _ => by norm_num⟩

theorem IsAbove.bounds {t : ℕ} (ht : ofNat? false t = some x) :
    2 ^ 63 < t ∧ t < 10 ^ 20 := by
  have hgap := (hx.reads_iff.mp ht).1
  have hmantissa := hx.mantissa
  have := x.canonical.1
  unfold gap at hgap
  omega

/-! ### The decimal grids -/

theorem IsAbove.gridScale (k : ℕ) : x.gridScale k = (512, 10 ^ k) := by
  unfold Binary64.gridScale
  rw [hx.exponent, Int.toNat_neg_natCast, Int.toNat_natCast]
  exact Prod.ext rfl (Nat.shiftLeft_zero)

theorem IsAbove.gridHit_iff (k d : ℕ) :
    x.gridHit k d = true ↔ ofNat? false (d * 10 ^ k) = some x := by
  have hmantissa := hx.mantissa
  have hmargins : x.margins = (2, 2) := by
    unfold margins
    rw [if_neg]
    norm_num
    omega
  rw [hx.reads_iff, gridHit, hx.gridScale, hmargins, gap]
  dsimp only
  split <;> rw [decide_eq_true_iff] <;> omega

/-- Zero does not read as the double. -/
theorem IsAbove.below_eq (k d : ℕ) :
    (x.gridHit k d && d != 0) = decide (ofNat? false (d * 10 ^ k) = some x) := by
  rw [Bool.eq_iff_iff, Bool.and_eq_true, hx.gridHit_iff, bne_iff_ne, decide_eq_true_iff]
  refine and_iff_left_of_imp fun hreads => ?_
  rintro rfl
  have := (hx.bounds hreads).1
  omega

/-- A grid has the better of the two neighbours of the double, if it has any number to write. -/
theorem IsAbove.onGrid?_spec (rule : TieRule) (k : ℕ) :
    (x.onGrid? rule k = none ∧ ∀ t, 10 ^ k ∣ t → ofNat? false t ≠ some x) ∨
      ∃ d, x.onGrid? rule k = some ⟨d, k⟩ ∧ x.IsWritten k (d * 10 ^ k) := by
  have hlow := hx.below_eq k (x.mantissa * 2048 / 10 ^ k)
  have hhigh : x.gridHit k (x.mantissa * 2048 / 10 ^ k + 1) =
      decide (ofNat? false ((x.mantissa * 2048 / 10 ^ k + 1) * 10 ^ k) = some x) := by
    rw [Bool.eq_iff_iff, decide_eq_true_iff, hx.gridHit_iff]
  have hvalue := Nat.div_mul_le_self (x.mantissa * 2048) (10 ^ k)
  have hnext : x.mantissa * 2048 < (x.mantissa * 2048 / 10 ^ k + 1) * 10 ^ k :=
    Nat.lt_mul_of_div_lt (Nat.lt_add_one _) (Nat.pow_pos (by norm_num))
  unfold Binary64.onGrid?
  rw [hx.gridScale]
  dsimp only
  rw [show 4 * x.mantissa * 512 = x.mantissa * 2048 by ring, hlow, hhigh]
  generalize x.mantissa * 2048 / 10 ^ k = d at *
  -- the neighbour that is no farther than the other one is written
  have hwritten {c : ℕ} (hreads : ofNat? false (c * 10 ^ k) = some x)
      (hbelow : x.gap (c * 10 ^ k) ≤ x.gap (d * 10 ^ k))
      (habove : x.gap (c * 10 ^ k) ≤ x.gap ((d + 1) * 10 ^ k)) : x.IsWritten k (c * 10 ^ k) :=
    ⟨hreads, Nat.dvd_mul_left _ _, fun t ht =>
      (gap_neighbour_le hvalue hnext ht).elim hbelow.trans habove.trans⟩
  by_cases hl : ofNat? false (d * 10 ^ k) = some x <;>
    by_cases hh : ofNat? false ((d + 1) * 10 ^ k) = some x
  · right
    simp only [hl, hh, decide_true]
    split
    · exact ⟨d, rfl, hwritten hl le_rfl (by unfold gap; omega)⟩
    · exact ⟨d + 1, rfl, hwritten hh (by unfold gap; omega) le_rfl⟩
  · right
    have hle := le_of_not_ge fun h => hh (hx.reads_of_gap_le h hl)
    simp only [hl, hh, decide_true, decide_false]
    exact ⟨d, rfl, hwritten hl le_rfl hle⟩
  · right
    have hle := le_of_not_ge fun h => hl (hx.reads_of_gap_le h hh)
    simp only [hl, hh, decide_true, decide_false]
    exact ⟨d + 1, rfl, hwritten hh hle le_rfl⟩
  · left
    simp only [hl, hh, decide_false]
    refine ⟨trivial, fun t ht hreads => ?_⟩
    rcases gap_neighbour_le hvalue hnext ht with hle | hle
    · exact hl (hx.reads_of_gap_le hle hreads)
    · exact hh (hx.reads_of_gap_le hle hreads)

/-- **The scan of the grids finds the shortest number**, if the first grid is fine enough to be
reached and no coarser one has a number that reads as the double. -/
theorem IsAbove.exists_firstHit (rule : TieRule) {count k : ℕ} (hk : k < count)
    (hcoarser : ∀ t, 10 ^ (k + 1) ∣ t → ofNat? false t ≠ some x) :
    ∃ s, x.IsShortest s ∧ (x.firstHit rule count k).IsWhole s := by
  induction count generalizing k with
  | zero => exact absurd hk (Nat.not_lt_zero _)
  | succ count ih =>
    rw [firstHit]
    rcases hx.onGrid?_spec rule k with ⟨hnone, hmiss⟩ | ⟨d, hsome, hwritten⟩
    · rw [hnone, Option.getD_none]
      cases k with
      | zero => exact absurd hx.reads_value (hmiss _ (one_dvd _))
      | succ k =>
        rw [Nat.cast_succ, add_sub_cancel_right]
        exact ih (by omega) hmiss
    · rw [hsome, Option.getD_some]
      exact ⟨d * 10 ^ k, ⟨k, hwritten, hcoarser⟩, k, rfl, rfl⟩

theorem IsAbove.exists_shortest (rule : TieRule) :
    ∃ s, x.IsShortest s ∧ (x.shortest rule).IsWhole s := by
  have hmantissa := hx.mantissa
  have hbound : x.decimalBound = (20 : ℕ) := by
    have hlog : Nat.log2 x.mantissa = 52 :=
      (Nat.log2_eq_iff (by omega)).mpr ⟨hmantissa.le, x.canonical.1⟩
    rw [decimalBound, hlog, hx.exponent]
    rfl
  have hcoarser : ∀ t, 10 ^ (20 + 1) ∣ t → ofNat? false t ≠ some x := by
    intro t ht hreads
    have hbounds := hx.bounds hreads
    have := Nat.le_of_dvd (by omega) ht
    omega
  obtain ⟨s, hs, hwhole⟩ := hx.exists_firstHit rule (show 20 < 24 by norm_num) hcoarser
  refine ⟨s, hs, ?_⟩
  unfold shortest
  rw [if_neg (by simp [isZero]; omega), hbound]
  exact hwhole.dropZeros 20

/-- **The key of such a double is the shortest number that reads as it.** -/
theorem IsAbove.keyText_eq : ∃ s : ℕ, x.IsShortest s ∧ x.keyText = toString s := by
  obtain ⟨s, hs, hwhole⟩ := hx.exists_shortest .greater
  have hbounds := hx.bounds hs.reads
  refine ⟨s, hs, ?_⟩
  have hint : (1 <<< 63 : ℤ) < x.toInt := by
    have hmantissa := hx.mantissa
    rw [toInt_of_toRat hx.toRat_eq, show (1 <<< 63 : ℤ) = 2 ^ 63 from rfl]
    omega
  unfold keyText signText
  rw [if_neg fun h => (hint.trans_le h.2.2).false, hx.positive, hwhole.positionalText (by omega)]
  rfl

/-- **There is only one shortest number.** Two of them would lie at one distance on both sides of
the double, which is then as round as they are and nearer. -/
theorem IsAbove.shortest_unique {s t : ℕ} (hs : x.IsShortest s) (ht : x.IsShortest t) : s = t := by
  obtain ⟨k, hs, hcoarserS⟩ := hs
  obtain ⟨j, ht, hcoarserT⟩ := ht
  have hkj : k = j := by
    rcases lt_trichotomy k j with hlt | heq | hlt
    · exact absurd ht.reads (hcoarserS t ((pow_dvd_pow 10 hlt).trans ht.zeros))
    · exact heq
    · exact absurd hs.reads (hcoarserT s ((pow_dvd_pow 10 hlt).trans hs.zeros))
  subst hkj
  have hgap : x.gap s = x.gap t := le_antisymm (hs.nearest t ht.zeros) (ht.nearest s hs.zeros)
  have hle := (hx.reads_iff.mp hs.reads).1
  by_contra hne
  have hdist : 10 ^ k ≤ 2048 := by
    have hdvd := Int.natAbs_dvd_natAbs.mpr
      (dvd_sub (Int.natCast_dvd_natCast.mpr hs.zeros) (Int.natCast_dvd_natCast.mpr ht.zeros))
    have := Nat.le_of_dvd (by omega) hdvd
    unfold gap at hgap hle
    omega
  have hk : k < 4 := (Nat.pow_lt_pow_iff_right (show 1 < 10 by norm_num)).mp (by omega)
  have hround : 10 ^ k ∣ x.mantissa * 2048 := by
    have hsum : s + t = 2 * (x.mantissa * 2048) := by
      unfold gap at hgap
      omega
    have hdvd := hsum ▸ dvd_add hs.zeros ht.zeros
    interval_cases k <;> omega
  have := hs.nearest _ hround
  unfold gap at hgap this
  omega

end Above

end Binary64

end Questionnaire.Number
