import Questionnaire.Proofs.Number.Rounding
import Questionnaire.Proofs.Number.Scan
import Questionnaire.Proofs.Schema.Regex

/-! # Numbers that people type

A typed real number is a decimal (`Writes`) or a word (`IsWord`), and the reader takes these texts
and no other ones (`isSome_readReal?_iff`). The number of a text is finite, so the reader of numbers
takes the decimals below the overflow only (`isSome_readNumber?_iff`). -/

namespace Questionnaire.Number

/-! ### How numbers are typed -/

/-- A sign or none, and whether it is a minus. -/
inductive IsSign : List Char → Bool → Prop
  | absent : IsSign [] false
  | plus : IsSign ['+'] false
  | minus : IsSign ['-'] true

/-- A point and the decimals behind it, or neither. -/
inductive IsFraction : List Char → List Char → Prop
  | absent : IsFraction [] []
  | point (decimals : List Char) : IsFraction ('.' :: decimals) decimals

/-- An exponent behind its mark, or none, which is zero. -/
inductive IsExponent : List Char → ℤ → Prop
  | absent : IsExponent [] 0
  | marked {mark : Char} {sign digits : List Char} {negative : Bool}
    (hmark : mark = 'e' ∨ mark = 'E') (hsign : IsSign sign negative)
    (hdigits : Regex.AreDigits digits) :
    IsExponent (mark :: (sign ++ digits))
      (if negative then -(ofDigits digits : ℤ) else ofDigits digits)

/-- **The text writes a decimal with a sign**: digits around a point, at least one, and an exponent.
Sign, point and exponent may be absent. -/
inductive Writes : List Char → Bool → Decimal → Prop
  | parts {sign whole fraction decimals exponent : List Char} {negative : Bool} {e : ℤ}
    (hsign : IsSign sign negative) (hfraction : IsFraction fraction decimals)
    (hdigits : Regex.AreDigits (whole ++ decimals)) (hexponent : IsExponent exponent e) :
    Writes (sign ++ (whole ++ (fraction ++ exponent))) negative
      ⟨ofDigits (whole ++ decimals), -decimals.length + e⟩

/-- The words for values that are no finite numbers. -/
def words : List String := ["inf", "infinity", "nan"]

/-- **The text is a word** for an infinity or for no number, in any case, behind a sign or none. -/
inductive IsWord : List Char → Prop
  | word {sign letters : List Char} {negative : Bool} (hsign : IsSign sign negative)
    (hletters : String.ofList (letters.map Char.toLower) ∈ words) :
    IsWord (sign ++ letters)

/-- The value of a decimal. -/
def Decimal.toRat (d : Decimal) : ℚ := d.digits * 10 ^ d.exponent

/-! ### Reading signs and exponents -/

theorem takeSign_of_isSign {sign rest : List Char} {negative : Bool} (h : IsSign sign negative)
    (hrest : ∀ c ∈ rest.head?, c ≠ '-' ∧ c ≠ '+') : takeSign (sign ++ rest) = (negative, rest) := by
  cases h with
  | absent =>
    cases rest with
    | nil => rfl
    | cons c rest =>
      obtain ⟨hminus, hplus⟩ := hrest c rfl
      simp [takeSign, hminus, hplus]
  | plus => rfl
  | minus => rfl

theorem exists_isSign (cs : List Char) :
    ∃ sign, cs = sign ++ (takeSign cs).2 ∧ IsSign sign (takeSign cs).1 := by
  unfold takeSign
  split
  · exact ⟨['-'], rfl, .minus⟩
  · exact ⟨['+'], rfl, .plus⟩
  · exact ⟨[], rfl, .absent⟩

theorem readNat?_eq_some_iff {cs : List Char} {n : ℕ} :
    readNat? cs = some n ↔ Regex.AreDigits cs ∧ ofDigits cs = n := by
  unfold readNat?
  rw [Option.ite_none_right_eq_some, Bool.and_eq_true, Bool.not_eq_true', List.isEmpty_eq_false_iff,
    List.all_eq_true, Option.some_inj]
  exact and_congr_left' ⟨fun h => ⟨h.1, h.2⟩, fun h => ⟨h.1, h.2⟩⟩

/-- A digit or a point is no sign. -/
theorem ne_sign {c : Char} (h : c.isDigit = true ∨ c = '.') : c ≠ '-' ∧ c ≠ '+' := by
  constructor <;> rintro rfl <;> rcases h with h | h <;> cases h

theorem readExponent?_cons (c : Char) (cs : List Char) :
    readExponent? (c :: cs) =
      if c = 'e' ∨ c = 'E' then
        (readNat? (takeSign cs).2).map fun n : ℕ => if (takeSign cs).1 then -(n : ℤ) else n
      else none := by
  rw [readExponent?]
  rcases takeSign cs with ⟨negative, digits⟩
  dsimp only
  cases readNat? digits <;> rfl

theorem readExponent?_eq_some_iff {cs : List Char} {e : ℤ} :
    readExponent? cs = some e ↔ IsExponent cs e := by
  constructor
  · intro h
    cases cs with
    | nil =>
      cases h
      exact .absent
    | cons c cs =>
      rw [readExponent?_cons] at h
      obtain ⟨hmark, h⟩ := Option.ite_none_right_eq_some.mp h
      obtain ⟨n, hn, rfl⟩ := Option.map_eq_some_iff.mp h
      obtain ⟨hdigits, rfl⟩ := readNat?_eq_some_iff.mp hn
      obtain ⟨sign, hcs, hsign⟩ := exists_isSign cs
      have hmarked := IsExponent.marked hmark hsign hdigits
      rwa [← hcs] at hmarked
  · intro h
    cases h with
    | absent => rfl
    | marked hmark hsign hdigits =>
      have hhead := fun c hc => ne_sign (.inl (hdigits.isDigit c (List.mem_of_head? hc)))
      rw [readExponent?_cons, if_pos hmark, takeSign_of_isSign hsign hhead]
      exact Option.map_eq_some_iff.mpr ⟨_, readNat?_eq_some_iff.mpr ⟨hdigits, rfl⟩, rfl⟩

/-! ### Reading decimals -/

/-- Neither a digit nor a point stands in front of an exponent. -/
theorem IsExponent.head {cs : List Char} {e : ℤ} (h : IsExponent cs e) :
    ∀ c ∈ cs.head?, c.isDigit = false ∧ c ≠ '.' := by
  intro c hc
  cases h with
  | absent => cases hc
  | marked hmark =>
    obtain rfl := Option.some.inj hc
    rcases hmark with rfl | rfl <;> decide

/-- The decimals behind a point, if there is one, and what follows them. -/
def takeFraction : List Char → List Char × List Char
  | '.' :: cs => Literal.spanDigits cs
  | cs => ([], cs)

theorem readPlain?_eq (cs : List Char) :
    readPlain? cs =
      let (whole, rest) := Literal.spanDigits cs
      let (decimals, rest) := takeFraction rest
      if whole.isEmpty && decimals.isEmpty then none
      else some (⟨ofDigits (whole ++ decimals), -decimals.length⟩, rest) := rfl

theorem exists_spanDigits (cs : List Char) :
    cs = (Literal.spanDigits cs).1 ++ (Literal.spanDigits cs).2 ∧
      ∀ c ∈ (Literal.spanDigits cs).1, c.isDigit = true :=
  ⟨List.takeWhile_append_dropWhile.symm, fun _ hc => List.mem_takeWhile_imp hc⟩

theorem takeFraction_of_isFraction {fraction decimals rest : List Char}
    (h : IsFraction fraction decimals) (hdecimals : ∀ c ∈ decimals, c.isDigit = true)
    (hrest : ∀ c ∈ rest.head?, c.isDigit = false ∧ c ≠ '.') :
    takeFraction (fraction ++ rest) = (decimals, rest) := by
  cases h with
  | absent =>
    cases rest with
    | nil => rfl
    | cons c rest => simp [takeFraction, (hrest c rfl).2]
  | point => exact Literal.spanDigits_of_digits hdecimals fun c hc => (hrest c hc).1

theorem exists_isFraction (cs : List Char) :
    ∃ fraction, cs = fraction ++ (takeFraction cs).2 ∧ IsFraction fraction (takeFraction cs).1 ∧
      ∀ c ∈ (takeFraction cs).1, c.isDigit = true := by
  unfold takeFraction
  split
  · next cs =>
    obtain ⟨hcs, hdigits⟩ := exists_spanDigits cs
    exact ⟨'.' :: (Literal.spanDigits cs).1, congrArg ('.' :: ·) hcs, .point _, hdigits⟩
  · exact ⟨[], rfl, .absent, by simp⟩

/-- The digits around the point are read to their end. -/
theorem readPlain?_of_parts {whole fraction decimals rest : List Char}
    (hfraction : IsFraction fraction decimals) (hdigits : Regex.AreDigits (whole ++ decimals))
    (hrest : ∀ c ∈ rest.head?, c.isDigit = false ∧ c ≠ '.') :
    readPlain? (whole ++ (fraction ++ rest)) =
      some (⟨ofDigits (whole ++ decimals), -decimals.length⟩, rest) := by
  have hwhole : ∀ c ∈ whole, c.isDigit = true := fun c hc =>
    hdigits.isDigit c (List.mem_append_left _ hc)
  have hdecimals : ∀ c ∈ decimals, c.isDigit = true := fun c hc =>
    hdigits.isDigit c (List.mem_append_right _ hc)
  have hhead : ∀ c ∈ (fraction ++ rest).head?, c.isDigit = false := by
    cases hfraction with
    | absent => exact fun c hc => (hrest c hc).1
    | point => simp
  have hsome : (whole.isEmpty && decimals.isEmpty) = false := by simpa using hdigits.ne_nil
  rw [readPlain?_eq, Literal.spanDigits_of_digits hwhole hhead]
  simp only [takeFraction_of_isFraction hfraction hdecimals hrest, hsome]
  rfl

theorem exists_parts {cs rest : List Char} {d : Decimal} (h : readPlain? cs = some (d, rest)) :
    ∃ whole fraction decimals, cs = whole ++ (fraction ++ rest) ∧ IsFraction fraction decimals ∧
      Regex.AreDigits (whole ++ decimals) ∧
      d = ⟨ofDigits (whole ++ decimals), -decimals.length⟩ := by
  obtain ⟨hcs, hwhole⟩ := exists_spanDigits cs
  obtain ⟨fraction, hfraction, hpoint, hdecimals⟩ := exists_isFraction (Literal.spanDigits cs).2
  rw [readPlain?_eq] at h
  generalize Literal.spanDigits cs = taken at *
  obtain ⟨whole, after⟩ := taken
  dsimp only at *
  generalize takeFraction after = found at *
  obtain ⟨hsome, h⟩ := Option.ite_none_left_eq_some.mp h
  cases h
  refine ⟨whole, fraction, found.1, hfraction ▸ hcs, hpoint, ⟨by simpa using hsome, ?_⟩, rfl⟩
  intro c hc
  exact (List.mem_append.mp hc).elim (hwhole c) (hdecimals c)

/-- A digit or a point stands in front of a decimal without a sign. -/
theorem exists_head_unsigned {whole fraction decimals : List Char}
    (hfraction : IsFraction fraction decimals) (hdigits : Regex.AreDigits (whole ++ decimals))
    (rest : List Char) :
    ∃ c cs, whole ++ (fraction ++ rest) = c :: cs ∧ (c.isDigit = true ∨ c = '.') := by
  cases whole with
  | nil =>
    cases hfraction with
    | absent => exact absurd rfl hdigits.ne_nil
    | point => exact ⟨_, _, rfl, .inr rfl⟩
  | cons d whole => exact ⟨d, _, rfl, .inl (hdigits.isDigit d List.mem_cons_self)⟩

/-- The decimal of a text, without its sign. -/
def readUnsigned? (cs : List Char) : Option Decimal := do
  let (d, rest) ← readPlain? cs
  let e ← readExponent? rest
  return ⟨d.digits, d.exponent + e⟩

theorem readReal?_eq (s : String) :
    readReal? s = ((readUnsigned? (takeSign s.toList).2).map
      (realOfDecimal (takeSign s.toList).1) <|>
        readSpecial? (takeSign s.toList).1 (takeSign s.toList).2) := by
  unfold readReal? readUnsigned?
  rcases takeSign s.toList with ⟨negative, cs⟩
  dsimp only
  cases readPlain? cs with
  | none => rfl
  | some found =>
    simp only [Option.bind_eq_bind, Option.bind_some]
    cases readExponent? found.2 <;> rfl

/-- **The reader of decimals reads what writes one.** -/
theorem writes_iff {cs : List Char} {negative : Bool} {d : Decimal} :
    Writes cs negative d ↔ (takeSign cs).1 = negative ∧ readUnsigned? (takeSign cs).2 = some d := by
  constructor
  · rintro ⟨hsign, hfraction, hdigits, hexponent⟩
    obtain ⟨c, cs, hcs, hc⟩ := exists_head_unsigned hfraction hdigits _
    rw [hcs, takeSign_of_isSign hsign (by simpa using ne_sign hc), ← hcs]
    refine ⟨rfl, ?_⟩
    unfold readUnsigned?
    rw [readPlain?_of_parts hfraction hdigits hexponent.head]
    simp only [Option.bind_eq_bind, Option.bind_some, readExponent?_eq_some_iff.mpr hexponent]
    rfl
  · rintro ⟨rfl, hread⟩
    obtain ⟨sign, hcs, hsign⟩ := exists_isSign cs
    obtain ⟨⟨d, rest⟩, hplain, hread⟩ := Option.bind_eq_some_iff.mp hread
    obtain ⟨e, hexponent, hread⟩ := Option.bind_eq_some_iff.mp hread
    obtain ⟨whole, fraction, decimals, hrest, hfraction, hdigits, rfl⟩ := exists_parts hplain
    cases hread
    have hwrites := Writes.parts hsign hfraction hdigits (readExponent?_eq_some_iff.mp hexponent)
    rwa [← hrest, ← hcs] at hwrites

/-- A text writes only one decimal. -/
theorem Writes.unique {cs : List Char} {negative negative' : Bool} {d d' : Decimal}
    (h : Writes cs negative d) (h' : Writes cs negative' d') : d' = d :=
  Option.some.inj ((writes_iff.mp h').2.symm.trans (writes_iff.mp h).2)

/-! ### Reading words -/

theorem isSome_readSpecial?_iff (negative : Bool) (cs : List Char) :
    (readSpecial? negative cs).isSome = true ↔
      String.ofList (cs.map Char.toLower) ∈ words := by
  unfold readSpecial? words
  generalize String.ofList (cs.map Char.toLower) = word
  dsimp only
  split
  · next h => rcases h with rfl | rfl <;> simp
  · next h =>
    split
    · next hnan => simp [hnan]
    · next hnan => simpa [hnan] using h

/-- The words start with a letter. -/
theorem head_of_mem_words {c : Char} {cs : List Char}
    (h : String.ofList ((c :: cs).map Char.toLower) ∈ words) :
    c.toLower = 'i' ∨ c.toLower = 'n' := by
  have hhead : ∀ word ∈ words, word.toList.head? = some 'i' ∨ word.toList.head? = some 'n' := by
    decide
  simpa using hhead _ h

theorem toLower_of_isDigit {c : Char} (h : c.isDigit = true) : c.toLower = c := by
  unfold Char.toLower
  rw [dif_neg]
  simp only [Char.isDigit, Bool.and_eq_true, decide_eq_true_eq, ge_iff_le,
    UInt32.le_iff_toNat_le] at h
  rintro ⟨hupper, -⟩
  have hlow : 65 ≤ c.val.toNat := hupper
  have hhigh : c.val.toNat ≤ 57 := h.2
  omega

/-- No word starts with a digit or a point. -/
theorem toLower_ne {c : Char} (h : c.isDigit = true ∨ c = '.') :
    c.toLower ≠ 'i' ∧ c.toLower ≠ 'n' := by
  rcases h with h | rfl
  · rw [toLower_of_isDigit h]
    constructor <;> rintro rfl <;> cases h
  · decide

theorem isWord_iff {cs : List Char} :
    IsWord cs ↔ String.ofList ((takeSign cs).2.map Char.toLower) ∈ words := by
  constructor
  · rintro ⟨hsign, hletters⟩
    rw [takeSign_of_isSign hsign]
    · exact hletters
    · intro c hc
      obtain ⟨cs, rfl⟩ := List.head?_eq_some_iff.mp hc
      have hhead := head_of_mem_words hletters
      constructor <;> rintro rfl <;> revert hhead <;> decide
  · intro h
    obtain ⟨sign, hcs, hsign⟩ := exists_isSign cs
    rw [hcs]
    exact .word hsign h

/-- No word is a decimal. -/
theorem IsWord.not_writes {cs : List Char} (h : IsWord cs) {negative : Bool} {d : Decimal} :
    ¬ Writes cs negative d := by
  rintro ⟨hsign, hfraction, hdigits, hexponent⟩
  obtain ⟨c, cs, hcs, hc⟩ := exists_head_unsigned hfraction hdigits _
  rw [hcs, isWord_iff, takeSign_of_isSign hsign (by simpa using ne_sign hc)] at h
  rcases head_of_mem_words h with hlower | hlower
  · exact (toLower_ne hc).1 hlower
  · exact (toLower_ne hc).2 hlower

/-! ### What is read -/

/-- **Decimals and words are read**, and nothing else. -/
theorem isSome_readReal?_iff (s : String) : (readReal? s).isSome = true ↔
    (∃ negative d, Writes s.toList negative d) ∨ IsWord s.toList := by
  have heither : (readReal? s).isSome = true ↔
      (readUnsigned? (takeSign s.toList).2).isSome = true ∨ IsWord s.toList := by
    rw [readReal?_eq, isWord_iff, ← isSome_readSpecial?_iff (takeSign s.toList).1]
    cases readUnsigned? (takeSign s.toList).2 <;> simp
  rw [heither, Option.isSome_iff_exists]
  refine or_congr_left ⟨?_, ?_⟩
  · rintro ⟨d, hd⟩
    exact ⟨_, d, writes_iff.mpr ⟨rfl, hd⟩⟩
  · rintro ⟨negative, d, hwrites⟩
    exact ⟨d, (writes_iff.mp hwrites).2⟩

theorem readReal?_of_writes {s : String} {negative : Bool} {d : Decimal}
    (h : Writes s.toList negative d) : readReal? s = some (realOfDecimal negative d) := by
  obtain ⟨rfl, hread⟩ := writes_iff.mp h
  rw [readReal?_eq, hread]
  rfl

theorem exists_writes_of_finite {s : String} {x : Binary64} (h : readReal? s = some (.finite x)) :
    ∃ negative d, Writes s.toList negative d ∧
      Binary64.ofDecimal? negative d.digits d.exponent = some x := by
  rw [readReal?_eq] at h
  cases hread : readUnsigned? (takeSign s.toList).2 with
  | some d =>
    refine ⟨_, d, writes_iff.mpr ⟨rfl, hread⟩, ?_⟩
    rw [hread] at h
    have hfinite : realOfDecimal (takeSign s.toList).1 d = .finite x := Option.some.inj h
    unfold realOfDecimal at hfinite
    split at hfinite
    · next y hy =>
      cases hfinite
      exact hy
    · cases hfinite
  | none =>
    rw [hread] at h
    have hspecial : readSpecial? (takeSign s.toList).1 (takeSign s.toList).2 = some (.finite x) := h
    unfold readSpecial? at hspecial
    dsimp only at hspecial
    split at hspecial
    · cases hspecial
    · split at hspecial <;> cases hspecial

theorem readInt64?_mem {s : String} {n : ℤ} (h : readInt64? s = some n) :
    -(1 <<< 63) ≤ n ∧ n ≤ 1 <<< 63 - 1 := by
  unfold readInt64? readInteger? at h
  obtain ⟨negative, digits⟩ := takeSign s.toList
  obtain ⟨m, -, h⟩ := Option.bind_eq_some_iff.mp h
  obtain ⟨hrange, hvalue⟩ := Option.ite_none_right_eq_some.mp h
  obtain rfl := Option.some.inj hvalue
  exact hrange

/-- The number of an id that reads as an integer. -/
theorem exists_ofInt? {s : String} {n : ℤ} (h : readInt64? s = some n) :
    ∃ range, ofInt? n = some (.integer n range) := by
  obtain ⟨hlow, hhigh⟩ := readInt64?_mem h
  have hrange : IntegerRange n := ⟨hlow, hhigh.trans_lt (by decide)⟩
  exact ⟨hrange, dif_pos hrange⟩

/-- Integers are decimals below the overflow. -/
theorem writes_of_readInt64? {s : String} {n : ℤ} (h : readInt64? s = some n) :
    ∃ negative d, Writes s.toList negative d ∧ d.toRat < Binary64.overflow := by
  obtain ⟨hlow, hhigh⟩ := readInt64?_mem h
  obtain ⟨sign, hs, hsign⟩ := exists_isSign s.toList
  unfold readInt64? readInteger? at h
  generalize takeSign s.toList = taken at *
  obtain ⟨negative, digits⟩ := taken
  obtain ⟨m, hm, h⟩ := Option.bind_eq_some_iff.mp h
  obtain ⟨hdigits, rfl⟩ := readNat?_eq_some_iff.mp hm
  obtain ⟨-, h⟩ := Option.ite_none_right_eq_some.mp h
  have hvalue := Option.some.inj h
  have hwrites : Writes s.toList negative ⟨ofDigits digits, 0⟩ := by
    have hparts : Writes (sign ++ (digits ++ ([] ++ []))) negative
        ⟨ofDigits (digits ++ []), -0 + 0⟩ :=
      .parts hsign .absent (by rwa [List.append_nil]) .absent
    simpa [← hs] using hparts
  refine ⟨negative, _, hwrites, ?_⟩
  have hsmall : ofDigits digits ≤ 2 ^ 63 := by
    cases negative <;> simp at hvalue <;> omega
  calc (ofDigits digits * 10 ^ (0 : ℤ) : ℚ) = ofDigits digits := by norm_num
    _ ≤ 2 ^ 63 := by exact_mod_cast hsmall
    _ ≤ 2 ^ (1023 : ℤ) := by
      rw [← zpow_natCast]
      exact zpow_le_zpow_right₀ one_le_two (by norm_num)
    _ < Binary64.overflow := Binary64.two_zpow_lt_overflow

/-- **Decimals below the overflow are numbers**, and nothing else is. -/
theorem isSome_readNumber?_iff (s : String) : (readNumber? s).isSome = true ↔
    ∃ negative d, Writes s.toList negative d ∧ d.toRat < Binary64.overflow := by
  unfold readNumber?
  cases hint : readInt64? s with
  | some n =>
    obtain ⟨range, hn⟩ := exists_ofInt? hint
    exact iff_of_true (Option.isSome_iff_exists.mpr ⟨_, hn⟩) (writes_of_readInt64? hint)
  | none =>
    constructor
    · intro h
      dsimp only at h
      split at h
      · next x hx =>
        obtain ⟨negative, d, hwrites, hdouble⟩ := exists_writes_of_finite hx
        refine ⟨negative, d, hwrites, ?_⟩
        exact (Binary64.isSome_ofDecimal?_iff negative d.digits d.exponent).mp
          (Option.isSome_iff_exists.mpr ⟨x, hdouble⟩)
      · cases h
    · rintro ⟨negative, d, hwrites, hsmall⟩
      obtain ⟨x, hx⟩ := Option.isSome_iff_exists.mp
        ((Binary64.isSome_ofDecimal?_iff negative d.digits d.exponent).mpr hsmall)
      rw [readReal?_of_writes hwrites, realOfDecimal, hx]
      rfl

end Questionnaire.Number
