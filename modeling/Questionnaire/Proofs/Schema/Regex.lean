import Mathlib.Computability.RegularExpressions

/-! # Patterns of schemas

The patterns of JSON Schema are regular expressions of ECMA-262, and a text satisfies one that is
found anywhere in it. `Regex.ofText?` reads those that are made of characters, digits, groups and
signs of repetition, with an edge of the text at either end. Such a pattern has a `language`, the
texts that it is found in. -/

namespace Questionnaire

/-- A pattern, and whether it has to be found at the start of a text or at its end. -/
structure Regex where
  fromStart : Bool
  body : RegularExpression Char
  toEnd : Bool

namespace Regex

/-- The texts that the pattern is found in. -/
def language (r : Regex) : Language Char :=
  (if r.fromStart then 1 else ⊤) * r.body.matches' * if r.toEnd then 1 else ⊤

/-! ### Reading -/

/-- One of some characters. -/
def oneOf (cs : List Char) : RegularExpression Char := cs.foldr (fun c r => .char c + r) 0

/-- What `\d` stands for. -/
def digit : RegularExpression Char := oneOf "0123456789".toList

/-- The characters that mean something else. -/
def signs : List Char := "^$\\.*+?()[]\x7b\x7d|".toList

/-- What has been read, with the part that a sign may still repeat. -/
def followedBy (done : RegularExpression Char) : Option (RegularExpression Char) →
    RegularExpression Char
  | none => done
  | some last => done * last

/-- The rest of a pattern, and whether it has to be found at the end of a text. Of the group that is
being read there is what is done and the part that a sign may repeat; `outer` is what was done when
the groups around it began. -/
def readFrom (outer : List (RegularExpression Char)) (done : RegularExpression Char)
    (last : Option (RegularExpression Char)) : List Char → Option (RegularExpression Char × Bool)
  | [] => if outer.isEmpty then some (followedBy done last, false) else none
  | ['$'] => if outer.isEmpty then some (followedBy done last, true) else none
  | '(' :: cs => readFrom (followedBy done last :: outer) 1 none cs
  | ')' :: cs =>
    match outer with
    | [] => none
    | before :: outer => readFrom outer before (some (followedBy done last)) cs
  | '?' :: cs => last.bind fun r => readFrom outer (done * (1 + r)) none cs
  | '*' :: cs => last.bind fun r => readFrom outer (done * r.star) none cs
  | '+' :: cs => last.bind fun r => readFrom outer (done * (r * r.star)) none cs
  | '\\' :: 'd' :: cs => readFrom outer (followedBy done last) (some digit) cs
  | '\\' :: c :: cs =>
    if signs.contains c then readFrom outer (followedBy done last) (some (.char c)) cs else none
  | c :: cs =>
    if signs.contains c then none else readFrom outer (followedBy done last) (some (.char c)) cs

/-- The pattern of a text, unless it has other parts than are read here. -/
def ofText? (s : String) : Option Regex :=
  match s.toList with
  | '^' :: cs => (readFrom [] 1 none cs).map fun (body, toEnd) => ⟨true, body, toEnd⟩
  | cs => (readFrom [] 1 none cs).map fun (body, toEnd) => ⟨false, body, toEnd⟩

/-! ### Languages -/

theorem language_of_edges {r : Regex} (hstart : r.fromStart = true) (hend : r.toEnd = true) :
    r.language = r.body.matches' := by
  unfold language
  rw [if_pos hstart, if_pos hend, one_mul, mul_one]

theorem mem_oneOf {cs w : List Char} : w ∈ (oneOf cs).matches' ↔ ∃ c ∈ cs, w = [c] := by
  induction cs with
  | nil => simp [oneOf, Language.notMem_zero]
  | cons c cs ih =>
    rw [oneOf, List.foldr_cons, RegularExpression.matches'_add, Language.mem_add, ← oneOf, ih,
      RegularExpression.matches'_char]
    simp only [List.mem_cons, exists_eq_or_imp]
    rfl

/-- Digits are those of ASCII. -/
theorem exists_of_mem_digit {w : List Char} (h : w ∈ digit.matches') :
    ∃ c, c.isDigit = true ∧ w = [c] := by
  obtain ⟨c, hc, rfl⟩ := mem_oneOf.mp h
  have hdigits : "0123456789".toList.all Char.isDigit = true := rfl
  exact ⟨c, List.all_eq_true.mp hdigits c hc, rfl⟩

theorem isDigit_of_mem_star {w : List Char} (h : w ∈ digit.star.matches') :
    ∀ c ∈ w, c.isDigit = true := by
  obtain ⟨words, rfl, hwords⟩ := Language.mem_kstar.mp h
  intro c hc
  obtain ⟨word, hword, hc⟩ := List.mem_flatten.mp hc
  obtain ⟨d, hd, rfl⟩ := exists_of_mem_digit (hwords word hword)
  rwa [List.mem_singleton.mp hc]

/-- Digits of ASCII, at least one. -/
structure AreDigits (cs : List Char) : Prop where
  ne_nil : cs ≠ []
  isDigit : ∀ c ∈ cs, c.isDigit = true

theorem areDigits_of_mem {w : List Char} (h : w ∈ (digit * digit.star).matches') :
    AreDigits w := by
  rw [RegularExpression.matches'_mul, Language.mem_mul] at h
  obtain ⟨first, hfirst, rest, hrest, rfl⟩ := h
  obtain ⟨d, hd, rfl⟩ := exists_of_mem_digit hfirst
  exact ⟨by simp, List.forall_mem_cons.mpr ⟨hd, isDigit_of_mem_star hrest⟩⟩

theorem mem_optional {r : RegularExpression Char} {w : List Char} :
    w ∈ (1 + r).matches' ↔ w = [] ∨ w ∈ r.matches' := by
  rw [RegularExpression.matches'_add, Language.mem_add, RegularExpression.matches'_epsilon,
    Language.mem_one]

end Regex

end Questionnaire
