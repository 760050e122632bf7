import Questionnaire.Number.Binary64

/-! # The shortest decimal of a double

The reals that round to a given double form an interval around it, closed exactly when the mantissa
is even. `Binary64.shortest` scans the decimal grids from coarse to fine and takes the first that
has a point in the interval: of the two grid neighbours of the double the one that lies in the
interval, and the nearer if both do. So the digits are the fewest that read back, and of those the
nearest to the double. At equal distance a rule decides (`TieRule`), which is not the same for all
texts of a double. All comparisons are between whole numbers, after both sides are scaled by powers
of two and ten. -/

namespace Questionnaire.Number

/-- The number `digits · 10 ^ exponent`. -/
structure Decimal where
  digits : Nat
  exponent : Int
deriving DecidableEq, Repr

namespace Decimal

/-- One trailing zero of the digits moved into the exponent. -/
def dropZero (d : Decimal) : Decimal :=
  if d.digits % 10 = 0 then ⟨d.digits / 10, d.exponent + 1⟩ else d

/-- All of up to `n` trailing zeros moved into the exponent. -/
def dropZeros : Nat → Decimal → Decimal
  | 0, d => d
  | n + 1, d => if d.digits % 10 = 0 then dropZeros n d.dropZero else d

end Decimal

/-- Which of two neighbours on a grid is written that are equally far from a double: the even one, or
the greater one in size. -/
inductive TieRule where
  | even
  | greater
deriving DecidableEq, Repr

/-- The lower one of two neighbours at equal distance is written. -/
def TieRule.keepsLower : TieRule → Nat → Bool
  | .even, lower => lower % 2 == 0
  | .greater, _ => false

namespace Binary64

/-- The distances from a double to the ends of its interval, in quarters of a mantissa unit: half a
unit, but half of that below a power of two. -/
def margins (x : Binary64) : Nat × Nat :=
  if x.mantissa = 1 <<< 52 ∧ -1074 < x.exponent then (1, 2) else (2, 2)

/-- The factors that bring quarters of a mantissa unit and the grid of `10 ^ k` to whole numbers. -/
def gridScale (x : Binary64) (k : Int) : Nat × Nat :=
  let e := x.exponent - 2
  (Nat.pow 10 (-k).toNat <<< e.toNat, Nat.pow 10 k.toNat <<< (-e).toNat)

/-- The point `d · 10 ^ k` rounds to `x`. -/
def gridHit (x : Binary64) (k : Int) (d : Nat) : Bool :=
  let (p, q) := x.gridScale k
  let (below, above) := x.margins
  let low := (4 * x.mantissa - below) * p
  let high := (4 * x.mantissa + above) * p
  if x.mantissa % 2 = 0 then decide (low ≤ d * q ∧ d * q ≤ high)
  else decide (low < d * q ∧ d * q < high)

/-- The neighbour of `x` on the grid of `10 ^ k` that is to be written, if one rounds to `x`. -/
def onGrid? (x : Binary64) (rule : TieRule) (k : Int) : Option Decimal :=
  let (p, q) := x.gridScale k
  let v := 4 * x.mantissa * p
  let d := v / q
  match x.gridHit k d && d != 0, x.gridHit k (d + 1) with
  | true, true =>
    let below := v - d * q
    let above := (d + 1) * q - v
    some ⟨if below < above ∨ below = above ∧ rule.keepsLower d then d else d + 1, k⟩
  | true, false => some ⟨d, k⟩
  | false, true => some ⟨d + 1, k⟩
  | false, false => none

/-- The first hit on the grids of `10 ^ k`, `10 ^ (k - 1)` and so on; the exact value is the last
resort. -/
def firstHit (x : Binary64) (rule : TieRule) : Nat → Int → Decimal
  | 0, _ => ⟨x.wholePart, 0⟩
  | n + 1, k => (x.onGrid? rule k).getD (firstHit x rule n (k - 1))

/-- An exponent of ten above the size of `x`. -/
def decimalBound (x : Binary64) : Int :=
  ((Nat.log2 x.mantissa : Int) + x.exponent) * 30103 / 100000 + 2

/-- The fewest digits that read back as `x`, and of those the nearest; the sign is left aside. -/
def shortest (x : Binary64) (rule : TieRule) : Decimal :=
  if x.isZero then ⟨0, 0⟩ else Decimal.dropZeros 20 (x.firstHit rule 24 x.decimalBound)

end Binary64

end Questionnaire.Number
