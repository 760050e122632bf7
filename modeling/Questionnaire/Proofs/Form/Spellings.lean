import Questionnaire.Proofs.Form.Naming
import Questionnaire.Proofs.Number.Shortest
import Std.Data.String.ToInt

/-! # The two spellings of an integer

An integer that is exactly a double can stand in JSON as an integer and as a double. Below `2 ^ 63`
both have its digits as their key. At `2 ^ 63` the double has the key of the integer below, and
above it the key of a double is the shortest number that reads as it, which need not be the integer
(`integer_spellings_have_keys`). Still no two of these integers share a key
(`Number.eq_of_keyText_eq`): the number in a key is no other one of them, and is read as one double
only. -/

namespace Questionnaire

/-- The value has the key, also where it is wanted as an id. -/
def Json.IsNamed (v : Json) (key : String) : Prop :=
  v.key? = some key ∧ ∀ source, ItemId.decode source (.ofJson v) = .ok ⟨key⟩

theorem Json.isNamed_num {a : Number} {key : String} (h : a.keyText = key) :
    (Json.num a).IsNamed key :=
  ⟨congrArg some h, decode_ofJson (.num a) (congrArg some h)⟩

namespace Number

/-- The integers of the 64-bit ranges that are doubles. -/
structure IsShared (n : ℤ) : Prop where
  range : IntegerRange n
  exact : ∃ x : Binary64, x.toRat = n

/-- **The number in the key of a spelling**: the integer itself; the one below at `2 ^ 63`; or the
shortest number of the double. -/
inductive Spelt (n : ℤ) : ℤ → Prop
  | self : Spelt n n
  | capped (h : n = 2 ^ 63) : Spelt n (n - 1)
  | shortened (h : 2 ^ 63 < n) {x : Binary64} (hx : x.toRat = n) {s : ℕ} (hs : x.IsShortest s) :
    Spelt n s

theorem exists_spelt {n : ℤ} (range : IntegerRange n) {a : Number} (h : a.toRat = n) :
    ∃ s, Spelt n s ∧ a.keyText = toString s := by
  cases a with
  | integer m _ => exact ⟨n, .self, congrArg toString (Rat.intCast_inj.mp h)⟩
  | double x =>
    have hhigh : n < 2 ^ 64 := range.2
    rcases lt_trichotomy n (2 ^ 63) with hlt | heq | hgt
    · exact ⟨n, .self, Binary64.keyText_of_toRat h range.1 (Int.le_sub_one_of_lt hlt)⟩
    · exact ⟨n - 1, .capped heq, Binary64.keyText_of_bound h heq⟩
    · obtain ⟨s, hs, hkey⟩ := (Binary64.isAbove_of_toRat h hgt hhigh).1.keyText_eq
      exact ⟨s, .shortened hgt h hs, hkey⟩

/-! ### No key for two integers -/

/-- The greatest signed integer is odd, and too large to be a double. -/
theorem not_isShared_max : ¬ IsShared (2 ^ 63 - 1) := by
  rintro ⟨-, x, hx⟩
  have hvalue : x.mantissa * 2 ^ x.exponent.toNat = (2 ^ 63 - 1) * 2 ^ (-x.exponent).toNat :=
    Binary64.natAbs_of_toRat hx
  have hmantissa := x.canonical.1
  rcases Int.le_total x.exponent 0 with he | he
  · have := Nat.two_pow_pos (-x.exponent).toNat
    rw [Int.toNat_of_nonpos he, pow_zero, mul_one] at hvalue
    omega
  · obtain ⟨e, he⟩ := Int.eq_ofNat_of_zero_le he
    rw [he, Int.toNat_natCast, Int.toNat_of_nonpos (by omega), pow_zero, mul_one] at hvalue
    cases e with
    | zero => omega
    | succ e =>
      rw [pow_succ, ← mul_assoc] at hvalue
      omega

variable {n m : ℤ}

/-- The only one of these integers in the key of another is that one. -/
theorem IsShared.eq_of_spelt (hn : IsShared n) (hm : IsShared m) (h : Spelt m n) : n = m := by
  cases h with
  | self => rfl
  | capped hcap =>
    rw [hcap] at hn
    exact absurd hn not_isShared_max
  | @shortened hlow y hy s hs =>
    obtain ⟨x, hx⟩ := hn.exact
    obtain ⟨hyAbove, hyValue⟩ := Binary64.isAbove_of_toRat hy hlow hm.range.2
    have hbounds := hyAbove.bounds hs.reads
    have hgap := (hyAbove.reads_iff.mp hs.reads).1
    obtain ⟨-, hxValue⟩ := Binary64.isAbove_of_toRat hx (by omega) hn.range.2
    unfold Binary64.gap at hgap
    omega

/-- **Two of these integers have no key in common.** -/
theorem Spelt.unique {s : ℤ} (hn : IsShared n) (hm : IsShared m) (h : Spelt n s)
    (h' : Spelt m s) : n = m := by
  cases h with
  | self => exact hn.eq_of_spelt hm h'
  | capped hcap =>
    generalize hs : n - 1 = s at h'
    cases h' with
    | self => exact (hm.eq_of_spelt hn (hs ▸ .capped hcap)).symm
    | capped hcap' => exact hcap.trans hcap'.symm
    | shortened hlow hy hshort =>
      have := (Binary64.isAbove_of_toRat hy hlow hm.range.2).1.bounds hshort.reads
      omega
  | @shortened hlow x hx s hshort =>
    generalize hs : (s : ℤ) = t at h'
    cases h' with
    | self => exact (hm.eq_of_spelt hn (hs ▸ .shortened hlow hx hshort)).symm
    | capped hcap' =>
      have := (Binary64.isAbove_of_toRat hx hlow hn.range.2).1.bounds hshort.reads
      omega
    | @shortened _ y hy t hshort' =>
      obtain rfl : s = t := Nat.cast_injective hs
      obtain rfl : x = y := Option.some_inj.mp (hshort.reads.symm.trans hshort'.reads)
      exact Rat.intCast_inj.mp (hx.symm.trans hy)

/-- Numbers with one key equal the same integer. -/
theorem eq_of_keyText_eq {a b : Number} (hn : IsShared n) (hm : IsShared m) (ha : a.toRat = n)
    (hb : b.toRat = m) (h : a.keyText = b.keyText) : n = m := by
  obtain ⟨s, hs, hkeyA⟩ := exists_spelt hn.range ha
  obtain ⟨t, ht, hkeyB⟩ := exists_spelt hm.range hb
  have hkey : s.repr = t.repr := hkeyA.symm.trans (h.trans hkeyB)
  obtain rfl : s = t := Int.repr_injective hkey
  exact hs.unique hn hm ht

/-! ### The keys of both spellings -/

/-- **Where a double has the key of its integer**: below the bound, and above it where the integer
is the shortest number that reads as the double. -/
theorem toString_eq_keyText_iff (range : IntegerRange n) {x : Binary64} (hx : x.toRat = n) :
    toString n = x.keyText ↔ n < 2 ^ 63 ∨ 2 ^ 63 < n ∧ x.IsShortest n.toNat := by
  rcases lt_trichotomy n (2 ^ 63) with hlt | heq | hgt
  · have hkey := Binary64.keyText_of_toRat hx range.1 (Int.le_sub_one_of_lt hlt)
    exact iff_of_true hkey.symm (.inl hlt)
  · rw [Binary64.keyText_of_bound hx heq]
    refine iff_of_false (fun h => ?_) (by omega)
    have hn : n = n - 1 := Int.repr_injective h
    omega
  · have habove := (Binary64.isAbove_of_toRat hx hgt range.2).1
    obtain ⟨s, hs, hkey⟩ := habove.keyText_eq
    rw [hkey]
    constructor
    · intro h
      have hn : n = s := Int.repr_injective h
      exact .inr ⟨hgt, by rwa [hn, Int.toNat_natCast]⟩
    · rintro (hlt | ⟨-, hshort⟩)
      · omega
      · rw [habove.shortest_unique hs hshort]
        exact congrArg Int.repr (Int.toNat_of_nonneg (by omega)).symm

end Number

open Number in
/-- **The keys of an integer that is exactly a double.** Spelt as an integer it has its digits as
its key. Spelt as a double it has them below `2 ^ 63`, the digits of the integer below at `2 ^ 63`,
and above that the digits of the shortest number that reads as the double. So the spellings share a
key below `2 ^ 63`, and above it where the integer is that number. No two such integers share a key,
however they are spelt. -/
theorem integer_spellings_have_keys {n : ℤ} (range : IntegerRange n) {x : Binary64}
    (hx : x.toRat = n) :
    (Json.num (.integer n range)).IsNamed (toString n) ∧
      (n < 2 ^ 63 → (Json.num (.double x)).IsNamed (toString n)) ∧
      (n = 2 ^ 63 → (Json.num (.double x)).IsNamed "9223372036854775807") ∧
      (2 ^ 63 < n → ∃ s : ℕ, x.IsShortest s ∧ (Json.num (.double x)).IsNamed (toString s)) ∧
      ((Json.num (.integer n range)).key? = (Json.num (.double x)).key? ↔
        n < 2 ^ 63 ∨ 2 ^ 63 < n ∧ x.IsShortest n.toNat) ∧
      ∀ {m : ℤ} {a b : Number}, IsShared m → a.toRat = n → b.toRat = m →
        (Json.num a).key? = (Json.num b).key? → n = m := by
  refine ⟨Json.isNamed_num rfl, fun hlt => ?_, fun heq => ?_, fun hgt => ?_,
    Option.some_inj.trans (toString_eq_keyText_iff range hx), fun hm ha hb hkeys => ?_⟩
  · exact Json.isNamed_num (Binary64.keyText_of_toRat hx range.1 (Int.le_sub_one_of_lt hlt))
  · exact Json.isNamed_num ((Binary64.keyText_of_bound hx heq).trans (heq ▸ rfl))
  · obtain ⟨s, hs, hkey⟩ := (Binary64.isAbove_of_toRat hx hgt range.2).1.keyText_eq
    exact ⟨s, hs, Json.isNamed_num hkey⟩
  · exact eq_of_keyText_eq ⟨range, x, hx⟩ hm ha hb (Option.some_inj.mp hkeys)

/-- The double `2 ^ 63`. -/
def boundDouble : Number.Binary64 := ⟨false, 2 ^ 52, 11, by decide⟩

/-- The next double above it. -/
def aboveDouble : Number.Binary64 := ⟨false, 2 ^ 52 + 1, 11, by decide⟩

theorem toRat_boundDouble : boundDouble.toRat = (2 ^ 63 : ℤ) := by
  norm_num [boundDouble, Number.Binary64.toRat]

theorem toRat_aboveDouble : aboveDouble.toRat = (2 ^ 63 + 2048 : ℤ) := by
  norm_num [aboveDouble, Number.Binary64.toRat]

/-- The key of the double above the bound is that of no other such integer, so not that of the bound
itself. -/
theorem integer_spellings_have_keys_above :
    (Json.num (.integer (2 ^ 63 + 2048) (by decide))).IsNamed "9223372036854777856" ∧
      (∃ s : ℕ, aboveDouble.IsShortest s ∧
        (Json.num (.double aboveDouble)).IsNamed (toString s)) ∧
      ((Json.num (.integer (2 ^ 63 + 2048) (by decide))).key? =
          (Json.num (.double aboveDouble)).key? ↔
        aboveDouble.IsShortest 9223372036854777856) ∧
      (Json.num (.double aboveDouble)).key? ≠ (Json.num (.double boundDouble)).key? := by
  obtain ⟨hinteger, -, -, habove, hshared, hinjective⟩ :=
    integer_spellings_have_keys (by decide) toRat_aboveDouble
  refine ⟨hinteger, habove (by norm_num), hshared.trans ?_, fun hkey => ?_⟩
  · exact (or_iff_right (by norm_num)).trans (and_iff_right (by norm_num))
  · have hbound : Number.IsShared (2 ^ 63) := ⟨by decide, boundDouble, toRat_boundDouble⟩
    have := hinjective (a := .double aboveDouble) (b := .double boundDouble) hbound
      toRat_aboveDouble toRat_boundDouble hkey
    omega

/-- At the bound and just above it the spellings have different keys. -/
theorem spellings_differ_at_bound :
    boundDouble.toRat = (2 ^ 63 : ℤ) ∧
      (Json.num (.integer (2 ^ 63) (by decide))).IsNamed "9223372036854775808" ∧
      (Json.num (.double boundDouble)).IsNamed "9223372036854775807" ∧
      aboveDouble.toRat = (2 ^ 63 + 2048 : ℤ) ∧
      (Json.num (.integer (2 ^ 63 + 2048) (by decide))).IsNamed "9223372036854777856" ∧
      (Json.num (.double aboveDouble)).IsNamed "9223372036854778000" :=
  ⟨toRat_boundDouble, Json.isNamed_num rfl, Json.isNamed_num rfl, toRat_aboveDouble,
    Json.isNamed_num rfl, Json.isNamed_num rfl⟩

end Questionnaire
