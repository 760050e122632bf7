import Mathlib.Data.List.TakeWhile
import Questionnaire.Number.Typed

/-! # Number literals in a text

A literal in front of a comma or a closing bracket is scanned as if it stood alone
(`Literal.scan?_append`). The text of every number is such a literal (`exists_scan?_jsonText`): no
layout of a double puts a zero in front of other digits, since what is written starts with another
digit unless it is too far off to be written by places (`Binary64.digits_shortest`). -/

namespace Questionnaire.Number

/-- What may follow a value in a text: nothing, or what ends an item. -/
def Closes (rest : List Char) : Prop := ∀ c ∈ rest.head?, c = ',' ∨ c = ']' ∨ c = '}'

theorem closes_nil : Closes [] := by simp [Closes]

theorem closes_cons {c : Char} {rest : List Char} (h : c = ',' ∨ c = ']' ∨ c = '}') :
    Closes (c :: rest) := by
  simpa [Closes] using h

/-! ### Scanning in front of more text -/

namespace Literal

variable {rest : List Char}

theorem spanDigits_of_digits {ds : List Char} (hds : ∀ c ∈ ds, c.isDigit = true)
    (hrest : ∀ c ∈ rest.head?, c.isDigit = false) : spanDigits (ds ++ rest) = (ds, rest) := by
  unfold spanDigits
  rw [List.takeWhile_append_of_pos hds, List.dropWhile_append_of_pos hds]
  cases rest with
  | nil => simp
  | cons c rest => simp [hrest c rfl]

theorem spanDigits_append (h : Closes rest) (cs : List Char) :
    spanDigits (cs ++ rest) = ((spanDigits cs).1, (spanDigits cs).2 ++ rest) := by
  induction cs with
  | nil =>
    refine spanDigits_of_digits (by simp) fun c hc => ?_
    rcases h c hc with rfl | rfl | rfl <;> decide
  | cons c cs ih =>
    unfold spanDigits at ih ⊢
    obtain ⟨htake, hdrop⟩ := Prod.mk.inj ih
    cases hc : c.isDigit with
    | true => simp [hc, htake, hdrop]
    | false => simp [hc]

/-- What is scanned, with more text behind what follows. -/
def followedBy {α : Type} (rest : List Char) (found : Option (α × List Char)) :
    Option (α × List Char) :=
  found.map fun (a, cs) => (a, cs ++ rest)

theorem scanWhole?_append (h : Closes rest) (cs : List Char) :
    scanWhole? (cs ++ rest) = followedBy rest (scanWhole? cs) := by
  unfold scanWhole?
  rw [spanDigits_append h]
  rcases spanDigits cs with ⟨_ | ⟨d, ds⟩, left⟩
  · rfl
  · by_cases hzero : d = '0' ∧ ds ≠ []
    · simp [hzero, followedBy]
    · simp [hzero, followedBy]

theorem scanDecimals?_append (h : Closes rest) (cs : List Char) :
    scanDecimals? (cs ++ rest) = followedBy rest (scanDecimals? cs) := by
  cases cs with
  | nil =>
    cases rest with
    | nil => rfl
    | cons c rest => rcases h c rfl with rfl | rfl | rfl <;> rfl
  | cons c cs =>
    by_cases hpoint : c = '.'
    · subst hpoint
      simp only [List.cons_append, scanDecimals?]
      rw [spanDigits_append h]
      rcases spanDigits cs with ⟨_ | ⟨d, ds⟩, left⟩ <;> rfl
    · simp [scanDecimals?, followedBy, hpoint]

theorem takeSign_append (h : Closes rest) (cs : List Char) :
    takeSign (cs ++ rest) = ((takeSign cs).1, (takeSign cs).2 ++ rest) := by
  cases cs with
  | nil =>
    cases rest with
    | nil => rfl
    | cons c rest => rcases h c rfl with rfl | rfl | rfl <;> rfl
  | cons c cs =>
    by_cases hminus : c = '-'
    · subst hminus; rfl
    · by_cases hplus : c = '+'
      · subst hplus; rfl
      · simp [takeSign, hminus, hplus]

theorem scanExponent?_cons (c : Char) (cs : List Char) :
    scanExponent? (c :: cs) =
      if c = 'e' ∨ c = 'E' then
        match spanDigits (takeSign cs).2 with
        | ([], _) => none
        | (ds, left) => some (some ((takeSign cs).1, ds), left)
      else some (none, c :: cs) := rfl

theorem scanExponent?_append (h : Closes rest) (cs : List Char) :
    scanExponent? (cs ++ rest) = followedBy rest (scanExponent? cs) := by
  cases cs with
  | nil =>
    cases rest with
    | nil => rfl
    | cons c rest => rcases h c rfl with rfl | rfl | rfl <;> rfl
  | cons c cs =>
    rw [List.cons_append, scanExponent?_cons, scanExponent?_cons]
    by_cases hmark : c = 'e' ∨ c = 'E'
    · rw [if_pos hmark, if_pos hmark, takeSign_append h, spanDigits_append h]
      rcases spanDigits (takeSign cs).2 with ⟨_ | ⟨d, ds⟩, left⟩ <;> rfl
    · rw [if_neg hmark, if_neg hmark]
      rfl

/-- A literal without its sign. -/
def scanUnsigned? (negative : Bool) (cs : List Char) : Option (Literal × List Char) := do
  let (whole, cs) ← scanWhole? cs
  let (decimals, cs) ← scanDecimals? cs
  let (exponent, cs) ← scanExponent? cs
  return (⟨negative, whole, decimals, exponent⟩, cs)

theorem scan?_minus (cs : List Char) : scan? ('-' :: cs) = scanUnsigned? true cs := rfl

theorem scan?_of_head {cs : List Char} (h : cs.head? ≠ some '-') :
    scan? cs = scanUnsigned? false cs := by
  cases cs with
  | nil => rfl
  | cons c cs =>
    have hc : c ≠ '-' := by simpa using h
    unfold scan?
    simp [hc, scanUnsigned?]

theorem scanUnsigned?_append (h : Closes rest) (negative : Bool) (cs : List Char) :
    scanUnsigned? negative (cs ++ rest) = followedBy rest (scanUnsigned? negative cs) := by
  unfold scanUnsigned?
  rw [scanWhole?_append h]
  rcases scanWhole? cs with _ | ⟨whole, cs⟩
  · rfl
  · simp only [followedBy, Option.map_some, Option.bind_eq_bind, Option.bind_some]
    rw [scanDecimals?_append h]
    rcases scanDecimals? cs with _ | ⟨decimals, cs⟩
    · rfl
    · simp only [followedBy, Option.map_some, Option.bind_some]
      rw [scanExponent?_append h]
      rcases scanExponent? cs with _ | ⟨exponent, cs⟩ <;> rfl

/-- **A literal is scanned as if nothing followed it.** -/
theorem scan?_append (h : Closes rest) (cs : List Char) :
    scan? (cs ++ rest) = followedBy rest (scan? cs) := by
  cases cs with
  | nil =>
    cases rest with
    | nil => rfl
    | cons c rest => rcases h c rfl with rfl | rfl | rfl <;> rfl
  | cons c cs =>
    by_cases hminus : c = '-'
    · subst hminus
      rw [List.cons_append, scan?_minus, scan?_minus, scanUnsigned?_append h]
    · rw [scan?_of_head (by simpa using hminus), scan?_of_head (by simpa using hminus),
        scanUnsigned?_append h]

/-! ### Scanning digits -/

theorem scanWhole?_of_digits {d : Char} {ds rest : List Char}
    (hds : ∀ c ∈ d :: ds, c.isDigit = true) (hzero : d = '0' → ds = [])
    (hrest : ∀ c ∈ rest.head?, c.isDigit = false) :
    scanWhole? (d :: ds ++ rest) = some (d :: ds, rest) := by
  have hlead : ¬ (d = '0' ∧ ds ≠ []) := fun h => h.2 (hzero h.1)
  unfold scanWhole?
  rw [spanDigits_of_digits hds hrest]
  simp only [if_neg hlead]

theorem scanDecimals?_of_digits {d : Char} {ds rest : List Char}
    (hds : ∀ c ∈ d :: ds, c.isDigit = true) (hrest : ∀ c ∈ rest.head?, c.isDigit = false) :
    scanDecimals? ('.' :: (d :: ds ++ rest)) = some (d :: ds, rest) := by
  simp only [scanDecimals?]
  rw [spanDigits_of_digits hds hrest]

theorem scanDecimals?_of_head {c : Char} (h : c ≠ '.') (cs : List Char) :
    scanDecimals? (c :: cs) = some ([], c :: cs) := by
  simp [scanDecimals?, h]

theorem scanExponent?_of_digits {mark d : Char} {ds : List Char} (hmark : mark = '-' ∨ mark = '+')
    (hds : ∀ c ∈ d :: ds, c.isDigit = true) :
    ∃ exponent, scanExponent? ('e' :: mark :: d :: ds) = some (exponent, []) := by
  have hspan : spanDigits (d :: ds ++ []) = (d :: ds, []) := spanDigits_of_digits hds (by simp)
  rw [List.append_nil] at hspan
  rw [scanExponent?_cons, if_pos (.inl rfl)]
  rcases hmark with rfl | rfl
  · simp only [takeSign, hspan]
    exact ⟨_, rfl⟩
  · simp only [takeSign, hspan]
    exact ⟨_, rfl⟩

/-- The whole text is one literal but for its sign. -/
def ScansUnsigned (cs : List Char) : Prop :=
  ∀ negative, ∃ literal, scanUnsigned? negative cs = some (literal, [])

theorem scansUnsigned_of_parts {cs afterWhole afterDecimals whole decimals : List Char}
    {exponent : Option (Bool × List Char)} (hwhole : scanWhole? cs = some (whole, afterWhole))
    (hdecimals : scanDecimals? afterWhole = some (decimals, afterDecimals))
    (hexponent : scanExponent? afterDecimals = some (exponent, [])) : ScansUnsigned cs := by
  intro negative
  refine ⟨⟨negative, whole, decimals, exponent⟩, ?_⟩
  simp only [scanUnsigned?, hwhole, hdecimals, hexponent, Option.bind_eq_bind, Option.bind_some,
    Option.pure_def]

/-- A sign may stand in front. -/
theorem ScansUnsigned.exists_scan? {cs : List Char} (h : ScansUnsigned cs) (negative : Bool) :
    ∃ literal, scan? ((if negative then ['-'] else []) ++ cs) = some (literal, []) := by
  obtain ⟨literal, hliteral⟩ := h negative
  refine ⟨literal, ?_⟩
  cases negative with
  | true => exact hliteral
  | false =>
    rw [if_neg (by decide), List.nil_append, scan?_of_head, hliteral]
    intro hminus
    cases cs with
    | nil => cases hminus
    | cons c cs =>
      obtain rfl := Option.some.inj hminus
      cases hliteral

end Literal

/-- The text of a legible number starts with a minus sign or a digit. -/
theorem Literal.head_of_scan? {cs : List Char} {found : Literal × List Char}
    (h : scan? cs = some found) :
    ∃ c more, cs = c :: more ∧ (c = '-' ∨ c.isDigit = true) := by
  cases cs with
  | nil => cases h
  | cons c more =>
    refine ⟨c, more, rfl, ?_⟩
    by_cases hminus : c = '-'
    · exact .inl hminus
    · right
      rw [scan?_of_head (by simpa using hminus)] at h
      cases hdigit : c.isDigit with
      | true => rfl
      | false => simp [scanUnsigned?, scanWhole?, spanDigits, hdigit] at h

/-- Such a character is none that starts anything else. -/
theorem ne_of_head {c d : Char} (h : c = '-' ∨ c.isDigit = true)
    (hd : d ≠ '-' ∧ d.isDigit = false) : c ≠ d := by
  rintro rfl
  rcases h with rfl | h
  · exact hd.1 rfl
  · rw [hd.2] at h; cases h

/-! ### The digits of a natural number -/

section Digits

variable {n : Nat}

theorem digitChars_eq_toDigits (n : Nat) : digitChars n = Nat.toDigits 10 n := by
  rw [digitChars, Nat.toString_eq_repr, Nat.toList_repr]

theorem isDigit_of_mem_digitChars : ∀ c ∈ digitChars n, c.isDigit = true := by
  intro c hc
  rw [digitChars_eq_toDigits] at hc
  exact Nat.isDigit_of_mem_toDigits (by decide) (by decide) hc

/-- Only zero is written with a zero in front. -/
theorem head?_toDigits_ne_zero (h : 0 < n) : (Nat.toDigits 10 n).head? ≠ some '0' := by
  induction n using Nat.strongRecOn with
  | ind n ih =>
    -- the first digit is that of `n / 10`, until one digit is left
    by_cases hsmall : n < 10
    · have hdigit : ∀ m < 10, 0 < m → m.digitChar ≠ '0' := by decide
      rw [Nat.toDigits_of_lt_base hsmall]
      simpa using hdigit n hsmall h
    · have hfront := ih (n / 10) (by omega) (by omega)
      obtain ⟨d, ds, hds⟩ := List.exists_cons_of_ne_nil
        (Nat.toDigits_ne_nil (n := n / 10) (b := 10))
      rw [Nat.toDigits_of_base_le (by decide) (by omega), hds]
      rw [hds] at hfront
      simpa using hfront

theorem exists_digitChars_eq (n : Nat) :
    ∃ c cs, digitChars n = c :: cs ∧ (0 < n → c ≠ '0') ∧ (c = '0' → cs = []) := by
  rw [digitChars_eq_toDigits]
  rcases Nat.eq_zero_or_pos n with rfl | hpos
  · exact ⟨'0', [], rfl, fun h => absurd h (by decide), fun _ => rfl⟩
  · obtain ⟨c, cs, hcs⟩ := List.exists_cons_of_ne_nil (Nat.toDigits_ne_nil (n := n) (b := 10))
    have hhead := head?_toDigits_ne_zero hpos
    rw [hcs] at hhead
    have hc : c ≠ '0' := by simpa using hhead
    exact ⟨c, cs, hcs, fun _ => hc, fun hzero => absurd hzero hc⟩

theorem scanUnsigned?_digitChars (negative : Bool) (n : Nat) :
    Literal.scanUnsigned? negative (digitChars n) =
      some (⟨negative, digitChars n, [], none⟩, []) := by
  obtain ⟨c, cs, hcs, -, hzero⟩ := exists_digitChars_eq n
  have hall := isDigit_of_mem_digitChars (n := n)
  have hwhole : Literal.scanWhole? (digitChars n) = some (digitChars n, []) := by
    rw [hcs] at hall ⊢
    have hscan : Literal.scanWhole? (c :: cs ++ []) = some (c :: cs, []) :=
      Literal.scanWhole?_of_digits hall hzero (by simp)
    rwa [List.append_nil] at hscan
  unfold Literal.scanUnsigned?
  rw [hwhole]
  rfl

/-- **The text of an integer is a literal** without point and exponent. -/
theorem scan?_integer (n : Int) (range : IntegerRange n) :
    Literal.scan? (Number.integer n range).jsonText.toList =
      some (⟨decide (n < 0), digitChars n.natAbs, [], none⟩, []) := by
  have htext : (Number.integer n range).jsonText.toList = n.repr.toList := rfl
  rw [htext, Int.repr_eq_if]
  by_cases hn : 0 ≤ n
  · rw [if_pos hn, show n.toNat = n.natAbs by omega, decide_eq_false (by omega)]
    refine (Literal.scan?_of_head fun hhead => ?_).trans (scanUnsigned?_digitChars false _)
    have hdigit := isDigit_of_mem_digitChars '-' (List.mem_of_head? hhead)
    cases hdigit
  · rw [if_neg hn, show (-n).toNat = n.natAbs by omega, decide_eq_true (by omega),
      String.toList_append]
    exact scanUnsigned?_digitChars true _

end Digits

/-! ### Decimals -/

namespace Decimal

variable {d : Decimal}

theorem digits_dropZeros (h : 0 < d.digits) (n : Nat) : 0 < (d.dropZeros n).digits := by
  induction n generalizing d with
  | zero => exact h
  | succ n ih =>
    rw [dropZeros]
    split
    · next hzero =>
      refine ih ?_
      rw [dropZero, if_pos hzero]
      simp only []
      omega
    · exact h

end Decimal

namespace Binary64

theorem digits_onGrid? {x : Binary64} {rule : TieRule} {k : Int} {d : Decimal}
    (h : x.onGrid? rule k = some d) : 0 < d.digits := by
  simp only [onGrid?] at h
  split at h
  · next hhit _ =>
    obtain rfl := Option.some.inj h
    rw [Bool.and_eq_true, bne_iff_ne] at hhit
    have hpos := Nat.pos_of_ne_zero hhit.2
    simp only []
    split
    · exact hpos
    · exact Nat.succ_pos _
  · next hhit _ =>
    obtain rfl := Option.some.inj h
    rw [Bool.and_eq_true, bne_iff_ne] at hhit
    exact Nat.pos_of_ne_zero hhit.2
  · obtain rfl := Option.some.inj h
    exact Nat.succ_pos _
  · cases h

theorem digits_firstHit (x : Binary64) (rule : TieRule) (n : Nat) (k : Int) :
    0 < (x.firstHit rule n k).digits ∨ x.firstHit rule n k = ⟨0, 0⟩ := by
  induction n generalizing k with
  | zero =>
    rw [firstHit]
    rcases Nat.eq_zero_or_pos x.wholePart with hzero | hpos
    · rw [hzero]
      exact .inr rfl
    · exact .inl hpos
  | succ n ih =>
    rw [firstHit]
    cases hgrid : x.onGrid? rule k with
    | none => exact ih _
    | some d => exact .inl (digits_onGrid? hgrid)

/-- What is written of a double starts with a digit other than zero, unless it is so far off that it
is not written by places. -/
theorem digits_shortest {x : Binary64} (hzero : x.isZero = false) (rule : TieRule) :
    0 < (x.shortest rule).digits ∨ 16 ≤ (x.shortest rule).leadingExponent := by
  unfold shortest
  rw [if_neg (by simp [hzero])]
  rcases x.digits_firstHit rule 24 x.decimalBound with hpos | hnothing
  · exact .inl (Decimal.digits_dropZeros hpos 20)
  · right
    rw [hnothing]
    decide

end Binary64

/-! ### Layouts -/

section Layout

open Literal

variable {d : Decimal}

/-- The digits before the point start with none of the zeros that only hold a place. -/
theorem positional_spec (h : 0 < d.digits) :
    (∀ c ∈ d.positional.1, c.isDigit = true) ∧ (∀ c ∈ d.positional.2, c.isDigit = true) ∧
      d.positional.1.head? ≠ some '0' := by
  have hall := isDigit_of_mem_digitChars (n := d.digits)
  have hzeros : ∀ n, ∀ c ∈ List.replicate n '0', c.isDigit = true := by
    intro n c hc
    rw [List.eq_of_mem_replicate hc]
    decide
  unfold Decimal.positional
  simp only []
  split
  · refine ⟨by simp, fun c hc => ?_, by simp⟩
    rcases List.mem_append.mp hc with hc | hc
    · exact hzeros _ c hc
    · exact hall c hc
  · next hbefore =>
    refine ⟨fun c hc => ?_, fun c hc => hall c (List.mem_of_mem_drop hc), ?_⟩
    · rcases List.mem_append.mp hc with hc | hc
      · exact hall c (List.mem_of_mem_take hc)
      · exact hzeros _ c hc
    · obtain ⟨c, cs, hcs, hc, -⟩ := exists_digitChars_eq d.digits
      obtain ⟨n, hn⟩ : ∃ n, (((digitChars d.digits).length : Int) + d.exponent).toNat = n + 1 :=
        ⟨_, (Nat.succ_pred_eq_of_pos (by omega)).symm⟩
      rw [hn, hcs]
      simpa using hc h

theorem scansUnsigned_positionalText (h : 0 < d.digits) :
    ScansUnsigned (Binary64.positionalText d true).toList := by
  obtain ⟨hwhole, hdecimals, hhead⟩ := positional_spec h
  have hdigit : ∀ c ∈ ['0'], c.isDigit = true := fun c hc => by
    rw [List.mem_singleton.mp hc]
    rfl
  obtain ⟨c, cs, hcs, hall, hzero⟩ : ∃ c cs,
      (if d.positional.1.isEmpty then ['0'] else d.positional.1) = c :: cs ∧
        (∀ c' ∈ c :: cs, c'.isDigit = true) ∧ (c = '0' → cs = []) := by
    cases hcase : d.positional.1 with
    | nil => exact ⟨'0', [], rfl, hdigit, fun _ => rfl⟩
    | cons c cs =>
      rw [hcase] at hwhole hhead
      exact ⟨c, cs, rfl, hwhole, fun hc => absurd (by rw [hc]; rfl) hhead⟩
  obtain ⟨e, es, hes, hall'⟩ : ∃ e es,
      (if d.positional.2.isEmpty && true then ['0'] else d.positional.2) = e :: es ∧
        ∀ c' ∈ e :: es, c'.isDigit = true := by
    cases hcase : d.positional.2 with
    | nil => exact ⟨'0', [], rfl, hdigit⟩
    | cons e es => exact ⟨e, es, rfl, by rwa [hcase] at hdecimals⟩
  have htext : (Binary64.positionalText d true).toList = c :: cs ++ '.' :: (e :: es ++ []) := by
    unfold Binary64.positionalText
    simp only [hcs, hes]
    simp
  rw [htext]
  exact scansUnsigned_of_parts (scanWhole?_of_digits hall hzero (by simp))
    (scanDecimals?_of_digits hall' (by simp)) rfl

theorem scansUnsigned_scientificText (d : Decimal) :
    ScansUnsigned (Binary64.scientificText d).toList := by
  obtain ⟨c, cs, hcs, -, -⟩ := exists_digitChars_eq d.digits
  have hall := isDigit_of_mem_digitChars (n := d.digits)
  rw [hcs] at hall
  obtain ⟨mark, hmark, hmarkText⟩ : ∃ mark, (mark = '-' ∨ mark = '+') ∧
      (if d.leadingExponent < 0 then "e-" else "e+").toList = ['e', mark] := by
    split
    · exact ⟨'-', .inl rfl, rfl⟩
    · exact ⟨'+', .inr rfl, rfl⟩
  obtain ⟨e, es, hes, -, -⟩ := exists_digitChars_eq d.leadingExponent.natAbs
  have hall' := isDigit_of_mem_digitChars (n := d.leadingExponent.natAbs)
  rw [hes] at hall'
  obtain ⟨exponent, hexponent⟩ := scanExponent?_of_digits hmark hall'
  have hc : ∀ c' ∈ [c], c'.isDigit = true := fun c' hc' => hall c' (by simp_all)
  have hlast : (toString d.leadingExponent.natAbs).toList = e :: es := hes
  cases cs with
  | nil =>
    have htext : (Binary64.scientificText d).toList = [c] ++ 'e' :: mark :: e :: es := by
      unfold Binary64.scientificText
      simp only [String.toList_append, hmarkText, hlast, hcs, String.toList_ofList]
      rfl
    rw [htext]
    exact scansUnsigned_of_parts (scanWhole?_of_digits hc (by simp) (by simp))
      (scanDecimals?_of_head (by decide) _) hexponent
  | cons c' cs =>
    have htext : (Binary64.scientificText d).toList =
        [c] ++ '.' :: (c' :: cs ++ 'e' :: mark :: e :: es) := by
      unfold Binary64.scientificText
      simp only [String.toList_append, hmarkText, hlast, hcs, String.toList_ofList]
      simp
    have hcs' : ∀ c'' ∈ c' :: cs, c''.isDigit = true :=
      fun c'' h => hall c'' (List.mem_cons_of_mem _ h)
    rw [htext]
    exact scansUnsigned_of_parts (scanWhole?_of_digits hc (by simp) (by simp))
      (scanDecimals?_of_digits hcs' (by simp)) hexponent

/-- **The text of a double is a literal.** -/
theorem exists_scan?_double (x : Binary64) :
    ∃ literal, scan? x.jsonText.toList = some (literal, []) := by
  have hunsigned : ScansUnsigned (if x.isZero then "0.0"
      else if -5 ≤ (x.shortest .even).leadingExponent ∧ (x.shortest .even).leadingExponent < 16 then
        Binary64.positionalText (x.shortest .even) true
      else Binary64.scientificText (x.shortest .even)).toList := by
    split
    · exact fun negative => ⟨⟨negative, ['0'], ['0'], none⟩, rfl⟩
    · next hzero =>
      split
      · next hplaces =>
        refine scansUnsigned_positionalText ?_
        rcases Binary64.digits_shortest (by simpa using hzero) .even with hpos | hfar
        · exact hpos
        · omega
      · exact scansUnsigned_scientificText _
  have hsign : x.signText.toList = if x.negative then ['-'] else [] := by
    unfold Binary64.signText
    split <;> rfl
  unfold Binary64.jsonText
  rw [String.toList_append, hsign]
  exact hunsigned.exists_scan? x.negative

end Layout

/-- **The text of every number is a literal.** -/
theorem exists_scan?_jsonText (n : Number) :
    ∃ literal, Literal.scan? n.jsonText.toList = some (literal, []) := by
  cases n with
  | integer n range => exact ⟨_, scan?_integer n range⟩
  | double x => exact exists_scan?_double x

end Questionnaire.Number
