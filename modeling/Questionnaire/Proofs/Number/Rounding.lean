import Mathlib.Tactic.Linarith
import Mathlib.Tactic.NormNum
import Mathlib.Tactic.Ring
import Questionnaire.Proofs.Number.Value

/-! # Rounding to doubles

A fraction is rounded in two steps. Its exponent is the one at which its size has 53 bits before the
point, or the least one (`unitExponent_spec`); then the mantissa is the whole number nearest to the
fraction in that unit, and the even one of two (`divideToEven_eq_iff`). So a fraction has a double
exactly if it is less than half a unit above the largest one (`isSome_ofRatio?_iff`). -/

namespace Questionnaire.Number.Binary64

/-! ### The nearest whole number -/

/-- The number is nearest to the fraction, and even if another one is as near. -/
structure IsNearest (num den m : ℕ) : Prop where
  low : 2 * m * den ≤ 2 * num + den
  high : 2 * num ≤ 2 * m * den + den
  odd : m % 2 = 1 → 2 * m * den < 2 * num + den ∧ 2 * num < 2 * m * den + den

theorem divideToEven_eq_iff {num den m : ℕ} (hden : 0 < den) :
    divideToEven num den = m ↔ IsNearest num den m := by
  have hsplit : num = num / den * den + num % den := (Nat.div_add_mod' num den).symm
  have hrest : num % den < den := Nat.mod_lt num hden
  have hvalue : divideToEven num den =
      if den < 2 * (num % den) ∨ (2 * (num % den) = den ∧ num / den % 2 = 1) then num / den + 1
      else num / den := rfl
  rw [hvalue]
  generalize num / den = q at *
  generalize num % den = r at *
  subst hsplit
  constructor
  · rintro rfl
    split
    · next hup =>
      refine ⟨?_, ?_, fun hodd => ⟨?_, ?_⟩⟩ <;> rw [Nat.mul_assoc, Nat.add_mul] <;> omega
    · next hdown =>
      refine ⟨?_, ?_, fun hodd => ⟨?_, ?_⟩⟩ <;> rw [Nat.mul_assoc] <;> omega
  · rintro ⟨hlow, hhigh, hodd⟩
    rw [Nat.mul_assoc] at hlow hhigh hodd
    -- any other candidate is a whole unit away
    have hle : m ≤ q + 1 := by
      by_contra hlt
      have := Nat.mul_le_mul_right den (show q + 2 ≤ m by omega)
      rw [Nat.add_mul] at this
      omega
    have hge : q ≤ m := by
      by_contra hlt
      have := Nat.mul_le_mul_right den (show m + 1 ≤ q by omega)
      rw [Nat.add_mul] at this
      omega
    obtain rfl | rfl : m = q ∨ m = q + 1 := by omega
    · rw [if_neg]
      omega
    · rw [Nat.add_mul] at hlow hhigh hodd
      rw [if_pos]
      omega

/-! ### The unit of a fraction -/

variable {num den : ℕ}

theorem inUnits_snd_pos (num : ℕ) (hden : 0 < den) (e : ℤ) : 0 < (inUnits num den e).2 := by
  rw [inUnits, Nat.shiftLeft_eq, Nat.shiftLeft_eq]
  exact Nat.mul_pos hden (Nat.two_pow_pos _)

/-- A fraction in units of a power of two. -/
theorem inUnits_div (num den : ℕ) (e : ℤ) :
    ((inUnits num den e).1 : ℚ) / (inUnits num den e).2 = num / den / 2 ^ e := by
  rw [inUnits, Nat.shiftLeft_eq, Nat.shiftLeft_eq, two_zpow_eq_div]
  push_cast
  rw [div_div_eq_mul_div, div_mul_eq_mul_div, div_div]

theorem inUnits_div_lt_iff (num : ℕ) (hden : 0 < den) (e : ℤ) (k : ℕ) :
    (inUnits num den e).1 / (inUnits num den e).2 < 2 ^ k ↔ (num / den : ℚ) < 2 ^ (e + k) := by
  have hpos : (0 : ℚ) < (inUnits num den e).2 := by exact_mod_cast inUnits_snd_pos num hden e
  rw [Nat.div_lt_iff_lt_mul (inUnits_snd_pos num hden e), ← Nat.cast_lt (α := ℚ), Nat.cast_mul,
    Nat.cast_pow, Nat.cast_ofNat, ← div_lt_iff₀ hpos, inUnits_div, div_lt_iff₀ (by positivity),
    zpow_add₀ two_ne_zero, zpow_natCast, mul_comm]

/-- The size of a fraction by the counts of bits of its parts. -/
theorem two_zpow_lt_div (hnum : 0 < num) (hden : 0 < den) :
    (2 : ℚ) ^ ((Nat.log2 num : ℤ) - Nat.log2 den - 1) < num / den ∧
      (num / den : ℚ) < 2 ^ ((Nat.log2 num : ℤ) - Nat.log2 den + 1) := by
  have hnumLow : (2 : ℚ) ^ Nat.log2 num ≤ num := by
    exact_mod_cast Nat.log2_self_le hnum.ne'
  have hnumHigh : (num : ℚ) < 2 ^ (Nat.log2 num + 1) := by
    exact_mod_cast Nat.lt_log2_self (n := num)
  have hdenLow : (2 : ℚ) ^ Nat.log2 den ≤ den := by
    exact_mod_cast Nat.log2_self_le hden.ne'
  have hdenHigh : (den : ℚ) < 2 ^ (Nat.log2 den + 1) := by
    exact_mod_cast Nat.lt_log2_self (n := den)
  have hnumPos : (0 : ℚ) < num := by exact_mod_cast hnum
  have hdenPos : (0 : ℚ) < den := by exact_mod_cast hden
  constructor
  · calc (2 : ℚ) ^ ((Nat.log2 num : ℤ) - Nat.log2 den - 1)
        = 2 ^ Nat.log2 num / 2 ^ (Nat.log2 den + 1) := by
          rw [sub_sub, zpow_sub₀ two_ne_zero, zpow_natCast]
          norm_cast
      _ ≤ num / 2 ^ (Nat.log2 den + 1) := by gcongr
      _ < num / den := by gcongr
  · calc (num / den : ℚ) ≤ num / 2 ^ Nat.log2 den := by gcongr
      _ < 2 ^ (Nat.log2 num + 1) / 2 ^ Nat.log2 den := by gcongr
      _ = 2 ^ ((Nat.log2 num : ℤ) - Nat.log2 den + 1) := by
          rw [sub_add_eq_add_sub, zpow_sub₀ two_ne_zero, zpow_natCast]
          norm_cast

/-- The exponent is the one at which the fraction has 53 bits before the point, or the least one. -/
structure IsUnit (num den : ℕ) (e : ℤ) : Prop where
  least : -1074 ≤ e
  high : (num / den : ℚ) < 2 ^ (e + 53)
  low : e = -1074 ∨ (2 : ℚ) ^ (e + 52) ≤ num / den

theorem unitExponent_spec (hnum : 0 < num) (hden : 0 < den) :
    IsUnit num den (unitExponent num den) := by
  obtain ⟨hlow, hhigh⟩ := two_zpow_lt_div hnum hden
  have hcases : ∀ guess : ℤ, guess = max ((Nat.log2 num : ℤ) - Nat.log2 den - 52) (-1074) →
      IsUnit num den
        (if (inUnits num den guess).1 / (inUnits num den guess).2 < 2 ^ 52 ∧ -1074 < guess
          then guess - 1 else guess) := by
    intro guess hguess
    split
    · next hless =>
      rw [inUnits_div_lt_iff num hden] at hless
      refine ⟨by omega, ?_, .inr ?_⟩
      · rw [show guess - 1 + 53 = guess + (52 : ℕ) by omega]
        exact hless.1
      · rw [show guess - 1 + 52 = (Nat.log2 num : ℤ) - Nat.log2 den - 1 by omega]
        exact hlow.le
    · next hnot =>
      rw [inUnits_div_lt_iff num hden, not_and_or, not_lt] at hnot
      refine ⟨by omega, hhigh.trans_le (zpow_le_zpow_right₀ one_le_two (by omega)), ?_⟩
      by_cases hleast : guess = -1074
      · exact .inl hleast
      · exact .inr (hnot.resolve_right (by omega))
  exact hcases _ rfl

/-- A fraction has only one unit. -/
theorem IsUnit.unique {e f : ℤ} (he : IsUnit num den e) (hf : IsUnit num den f) : e = f := by
  have hle {e f : ℤ} (he : IsUnit num den e) (hf : IsUnit num den f) : e ≤ f := by
    by_contra hlt
    have hlow := he.low.resolve_left (by have := hf.least; omega)
    have hexp := (zpow_lt_zpow_iff_right₀ (one_lt_two (α := ℚ))).mp (hlow.trans_lt hf.high)
    omega
  exact le_antisymm (hle he hf) (hle hf he)

/-! ### The double of a fraction -/

theorem isNearest_divideToEven (num : ℕ) (hden : 0 < den) :
    IsNearest num den (divideToEven num den) :=
  (divideToEven_eq_iff hden).mp rfl

/-- The mantissa of a positive fraction, before it is carried. -/
def mantissaOf (num den : ℕ) : ℕ :=
  divideToEven (inUnits num den (unitExponent num den)).1
    (inUnits num den (unitExponent num den)).2

theorem ofRatio?_of_pos (negative : Bool) (hnum : 0 < num) :
    ofRatio? negative num den =
      if mantissaOf num den = 2 ^ 53 then
        ofParts? negative (2 ^ 52) (unitExponent num den + 1)
      else ofParts? negative (mantissaOf num den) (unitExponent num den) := by
  unfold ofRatio?
  rw [if_neg hnum.ne']
  rfl

/-- The mantissa has at most 53 bits, or is carried; and it has 53 bits at least, unless the
exponent is the least one. -/
theorem mantissaOf_bounds (hnum : 0 < num) (hden : 0 < den) :
    mantissaOf num den ≤ 2 ^ 53 ∧
      (unitExponent num den = -1074 ∨ 2 ^ 52 ≤ mantissaOf num den) := by
  obtain ⟨-, hhigh, hlow⟩ := unitExponent_spec hnum hden
  have hpos := inUnits_snd_pos num hden (unitExponent num den)
  have hnearest := isNearest_divideToEven (inUnits num den (unitExponent num den)).1 hpos
  have hhigh' := (inUnits_div_lt_iff num hden (unitExponent num den) 53).mpr hhigh
  have hlow' : unitExponent num den = -1074 ∨
      ¬ (inUnits num den (unitExponent num den)).1 / (inUnits num den (unitExponent num den)).2 <
        2 ^ 52 :=
    hlow.imp_right fun h => by rw [inUnits_div_lt_iff num hden]; exact not_lt.mpr h
  rw [Nat.div_lt_iff_lt_mul hpos] at hhigh' hlow'
  rw [mantissaOf]
  generalize (inUnits num den (unitExponent num den)).1 = n at *
  generalize (inUnits num den (unitExponent num den)).2 = d at *
  obtain ⟨hbelow, habove, -⟩ := hnearest
  refine ⟨?_, hlow'.imp_right fun hlow => ?_⟩
  · by_contra hlt
    have := Nat.mul_le_mul_right d (show 2 * (2 ^ 53 + 1) ≤ 2 * divideToEven n d by omega)
    omega
  · by_contra hlt
    have := Nat.mul_le_mul_right d (show 2 * divideToEven n d + 2 ≤ 2 * 2 ^ 52 by omega)
    rw [Nat.add_mul] at this
    omega

theorem isSome_ofParts? (negative : Bool) (m : ℕ) (e : ℤ) :
    (ofParts? negative m e).isSome = true ↔ Canonical m e := by
  unfold ofParts?
  split
  · next h => simpa using h
  · next h => simpa using h

/-- The size from which on a fraction has no double: half a unit above the largest double. -/
def overflow : ℚ := (2 ^ 54 - 1) * 2 ^ (970 : ℤ)

theorem two_zpow_lt_overflow : (2 : ℚ) ^ (1023 : ℤ) < overflow := by
  rw [overflow, show (1023 : ℤ) = 53 + 970 by norm_num, zpow_add₀ two_ne_zero]
  exact mul_lt_mul_of_pos_right (by norm_num) (by positivity)

theorem overflow_lt_two_zpow : overflow < (2 : ℚ) ^ (1024 : ℤ) := by
  rw [overflow, show (1024 : ℤ) = 54 + 970 by norm_num, zpow_add₀ two_ne_zero]
  exact mul_lt_mul_of_pos_right (by norm_num) (by positivity)

/-- At the greatest exponent a mantissa is carried from the overflow on. -/
theorem mantissaOf_lt_iff (hden : 0 < den) (he : unitExponent num den = 971) :
    mantissaOf num den < 2 ^ 53 ↔ (num / den : ℚ) < overflow := by
  have hpos := inUnits_snd_pos num hden (unitExponent num den)
  have hnearest := isNearest_divideToEven (inUnits num den (unitExponent num den)).1 hpos
  have hunits := inUnits_div num den (unitExponent num den)
  rw [mantissaOf]
  rw [he] at *
  generalize (inUnits num den 971).1 = n at *
  generalize (inUnits num den 971).2 = d at *
  have hd : (0 : ℚ) < d := by exact_mod_cast hpos
  have hvalue : (num / den : ℚ) = 2 * n / d * 2 ^ (970 : ℤ) := by
    rw [eq_div_iff (by positivity), show (971 : ℤ) = 1 + 970 by norm_num,
      zpow_add₀ two_ne_zero, zpow_one] at hunits
    rw [← hunits]
    ring
  calc divideToEven n d < 2 ^ 53 ↔ 2 * n < (2 ^ 54 - 1) * d := by
        obtain ⟨hbelow, habove, hodd⟩ := hnearest
        generalize divideToEven n d = m at *
        constructor
        · intro hm
          -- the last mantissa is odd, so the middle above it is rounded up
          rcases Nat.lt_or_ge m (2 ^ 53 - 1) with hlt | hge
          · have := Nat.mul_le_mul_right d (show 2 * m + 3 ≤ 2 ^ 54 by omega)
            rw [Nat.add_mul] at this
            omega
          · obtain rfl : m = 2 ^ 53 - 1 := by omega
            have := (hodd (by norm_num)).2
            omega
        · intro hn
          by_contra hm
          have := Nat.mul_le_mul_right d (show 2 ^ 54 ≤ 2 * m by omega)
          omega
    _ ↔ (2 * n : ℚ) < (2 ^ 54 - 1) * d := by
        rw [← Nat.cast_lt (α := ℚ)]
        norm_num
    _ ↔ (num / den : ℚ) < overflow := by
        rw [hvalue, overflow, mul_lt_mul_iff_left₀ (by positivity), div_lt_iff₀ hd]

/-- **A fraction has a double exactly below the overflow.** -/
theorem isSome_ofRatio?_iff (negative : Bool) (num : ℕ) (hden : 0 < den) :
    (ofRatio? negative num den).isSome = true ↔ (num / den : ℚ) < overflow := by
  rcases Nat.eq_zero_or_pos num with rfl | hnum
  · rw [ofRatio?, if_pos rfl, Nat.cast_zero, zero_div]
    exact iff_of_true rfl (lt_trans (by positivity) two_zpow_lt_overflow)
  obtain ⟨hleast, hhigh, hlow⟩ := unitExponent_spec hnum hden
  obtain ⟨hmantissa, hbits⟩ := mantissaOf_bounds hnum hden
  have hiff : (ofRatio? negative num den).isSome = true ↔
      unitExponent num den < 971 ∨ unitExponent num den = 971 ∧ mantissaOf num den < 2 ^ 53 := by
    rw [ofRatio?_of_pos negative hnum]
    split
    · next hcarry =>
      rw [isSome_ofParts?]
      norm_num [Canonical]
      omega
    · next hstays =>
      rw [isSome_ofParts?]
      norm_num [Canonical]
      omega
  rw [hiff]
  rcases lt_trichotomy (unitExponent num den) 971 with he | he | he
  · have hsmall : (num / den : ℚ) < overflow := by
      calc (num / den : ℚ) < 2 ^ (unitExponent num den + 53) := hhigh
        _ ≤ 2 ^ (1023 : ℤ) := zpow_le_zpow_right₀ one_le_two (by omega)
        _ < overflow := two_zpow_lt_overflow
    exact iff_of_true (.inl he) hsmall
  · rw [← mantissaOf_lt_iff hden he]
    omega
  · have hlarge : overflow ≤ (num / den : ℚ) := by
      calc overflow ≤ 2 ^ (1024 : ℤ) := overflow_lt_two_zpow.le
        _ ≤ 2 ^ (unitExponent num den + 52) := zpow_le_zpow_right₀ one_le_two (by omega)
        _ ≤ num / den := hlow.resolve_left (by omega)
    exact iff_of_false (by omega) hlarge.not_gt

/-! ### The double of a decimal -/

section Decimals
variable {digits : ℕ} {e : ℤ}

/-- A decimal that is told to be too large without looking at its digits. -/
theorem overflow_le_of_reach (hdigits : 0 < digits)
    (h : (decimalReach : ℤ) < e + Nat.log2 digits / 4) : overflow ≤ digits * 10 ^ e := by
  have hcount : (10 : ℚ) ^ (Nat.log2 digits / 4) ≤ digits := by
    calc (10 : ℚ) ^ (Nat.log2 digits / 4) ≤ 16 ^ (Nat.log2 digits / 4) := by gcongr; norm_num
      _ = 2 ^ (4 * (Nat.log2 digits / 4)) := by rw [pow_mul]; norm_num
      _ ≤ 2 ^ Nat.log2 digits := pow_le_pow_right₀ one_le_two (by omega)
      _ ≤ digits := by exact_mod_cast Nat.log2_self_le hdigits.ne'
  have hreach : (1024 : ℤ) ≤ e + (Nat.log2 digits / 4 : ℕ) := by
    have : (decimalReach : ℤ) = 1200 := rfl
    omega
  calc overflow ≤ (2 : ℚ) ^ (1024 : ℤ) := overflow_lt_two_zpow.le
    _ ≤ 10 ^ (1024 : ℤ) := zpow_le_zpow_left₀ (by norm_num) (by norm_num) (by norm_num)
    _ ≤ 10 ^ (e + (Nat.log2 digits / 4 : ℕ)) := zpow_le_zpow_right₀ (by norm_num) hreach
    _ = 10 ^ (Nat.log2 digits / 4) * 10 ^ e := by
      rw [zpow_add₀ (by norm_num), zpow_natCast, mul_comm]
    _ ≤ digits * 10 ^ e := by gcongr

/-- A decimal that is told to be too small without looking at its digits. -/
theorem lt_overflow_of_reach (h : e + Nat.log2 digits < -(decimalReach : ℤ)) :
    digits * 10 ^ e < overflow := by
  have hdigits : (digits : ℚ) ≤ 10 ^ (Nat.log2 digits + 1) := by
    calc (digits : ℚ) ≤ 2 ^ (Nat.log2 digits + 1) := by
          exact_mod_cast (Nat.lt_log2_self (n := digits)).le
      _ ≤ 10 ^ (Nat.log2 digits + 1) := by gcongr; norm_num
  have hreach : e + (Nat.log2 digits + 1 : ℕ) ≤ 0 := by
    have : (decimalReach : ℤ) = 1200 := rfl
    omega
  calc (digits : ℚ) * 10 ^ e ≤ 10 ^ (Nat.log2 digits + 1) * 10 ^ e := by gcongr
    _ = 10 ^ (e + (Nat.log2 digits + 1 : ℕ)) := by
      rw [zpow_add₀ (by norm_num), zpow_natCast, mul_comm]
    _ ≤ 10 ^ (0 : ℤ) := zpow_le_zpow_right₀ (by norm_num) hreach
    _ ≤ 2 ^ (1023 : ℤ) := by
      rw [zpow_zero]
      exact one_le_zpow₀ one_le_two (by norm_num)
    _ < overflow := two_zpow_lt_overflow

/-- **A decimal has a double exactly below the overflow.** -/
theorem isSome_ofDecimal?_iff (negative : Bool) (digits : ℕ) (e : ℤ) :
    (ofDecimal? negative digits e).isSome = true ↔ (digits * 10 ^ e : ℚ) < overflow := by
  have hfraction : (digits * 10 ^ e : ℚ) =
      ((digits * Nat.pow 10 e.toNat : ℕ) : ℚ) / (Nat.pow 10 (-e).toNat : ℕ) := by
    rw [Nat.pow_eq, Nat.pow_eq, zpow_eq_div (by norm_num), ← mul_div_assoc]
    push_cast
    rfl
  unfold ofDecimal?
  split
  · next hzero =>
    rw [hzero, Nat.cast_zero, zero_mul]
    exact iff_of_true rfl (lt_trans (by positivity) two_zpow_lt_overflow)
  · next hdigits =>
    dsimp only
    split
    · next hreach =>
      exact iff_of_false (by simp)
        (overflow_le_of_reach (Nat.pos_of_ne_zero hdigits) hreach).not_gt
    · split
      · next hreach => exact iff_of_true rfl (lt_overflow_of_reach hreach)
      · have hpos : 0 < Nat.pow 10 (-e).toNat := Nat.pow_pos (show 0 < 10 by norm_num)
        rw [isSome_ofRatio?_iff negative _ hpos, hfraction]

end Decimals

/-! ### Numbers that read as a double -/

theorem ofParts?_eq_some_iff {negative : Bool} {m : ℕ} {e : ℤ} {x : Binary64} :
    ofParts? negative m e = some x ↔
      x.negative = negative ∧ x.mantissa = m ∧ x.exponent = e := by
  unfold ofParts?
  constructor
  · intro h
    split at h
    · cases h
      exact ⟨rfl, rfl, rfl⟩
    · cases h
  · rintro ⟨rfl, rfl, rfl⟩
    exact dif_pos x.canonical

/-- **What is rounded to a double**: the fractions to which its mantissa is nearest, in the unit of
its exponent. (The least mantissa of a unit is left out, since it is also come to from below.) -/
theorem ofRatio?_eq_some_iff {negative : Bool} {x : Binary64} (hden : 0 < den)
    (hx : 2 ^ 52 < x.mantissa) :
    ofRatio? negative num den = some x ↔ x.negative = negative ∧
      IsNearest (inUnits num den x.exponent).1 (inUnits num den x.exponent).2 x.mantissa := by
  constructor
  · intro h
    have hnum : 0 < num := by
      by_contra hzero
      rw [ofRatio?, if_pos (by omega)] at h
      cases h
      exact absurd hx (Nat.not_lt_zero _)
    rw [ofRatio?_of_pos negative hnum] at h
    split at h
    · have := (ofParts?_eq_some_iff.mp h).2.1
      omega
    · obtain ⟨rfl, hmantissa, hexponent⟩ := ofParts?_eq_some_iff.mp h
      rw [hmantissa, hexponent]
      exact ⟨rfl, isNearest_divideToEven _ (inUnits_snd_pos num hden _)⟩
  · rintro ⟨rfl, hnearest⟩
    obtain ⟨hmantissa, hleast, -, -⟩ := x.canonical
    have hpos := inUnits_snd_pos num hden x.exponent
    have hfloor : (inUnits num den x.exponent).1 / (inUnits num den x.exponent).2 < 2 ^ 53 ∧
        ¬ (inUnits num den x.exponent).1 / (inUnits num den x.exponent).2 < 2 ^ 52 := by
      rw [Nat.div_lt_iff_lt_mul hpos, Nat.div_lt_iff_lt_mul hpos]
      obtain ⟨hlow, hhigh, -⟩ := hnearest
      generalize (inUnits num den x.exponent).1 = n at *
      generalize (inUnits num den x.exponent).2 = d at *
      have hlarge := Nat.mul_le_mul_right d (show 2 * 2 ^ 52 + 2 ≤ 2 * x.mantissa by omega)
      have hsmall := Nat.mul_le_mul_right d (show 2 * x.mantissa + 2 ≤ 2 * 2 ^ 53 by omega)
      rw [Nat.add_mul] at hlarge hsmall
      omega
    have hnum : 0 < num := by
      by_contra hzero
      obtain rfl : num = 0 := by omega
      exact hfloor.2 (by simp [inUnits])
    have hunit : IsUnit num den x.exponent :=
      { least := hleast
        high := (inUnits_div_lt_iff num hden x.exponent 53).mp hfloor.1
        low := .inr (not_lt.mp (mt (inUnits_div_lt_iff num hden x.exponent 52).mpr hfloor.2)) }
    have hexponent := (unitExponent_spec hnum hden).unique hunit
    have hvalue : mantissaOf num den = x.mantissa := by
      rw [mantissaOf, hexponent]
      exact (divideToEven_eq_iff hpos).mpr hnearest
    rw [ofRatio?_of_pos x.negative hnum, hvalue, hexponent,
      if_neg (show x.mantissa ≠ 2 ^ 53 from hmantissa.ne)]
    exact ofParts?_eq_some_iff.mpr ⟨rfl, rfl, rfl⟩

end Questionnaire.Number.Binary64
