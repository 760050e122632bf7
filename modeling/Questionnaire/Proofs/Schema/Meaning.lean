import Questionnaire.Proofs.Json.Shape
import Questionnaire.Proofs.Lookup
import Questionnaire.Proofs.Number.Value
import Questionnaire.Proofs.Schema.Regex

/-! # What a schema admits

The meaning of JSON Schema, draft 2020-12, for the keywords that the schemas of answers use. Numbers
are equal by value, whether they are written as integers or not (`Json.Same`), and the format of
dates is asserted as the full dates of RFC 3339 (`IsFullDate`). All other keywords are taken for
annotations, which admit everything. -/

namespace Questionnaire

open Number (ofDigits)

/-! ### Dates -/

/-- A leap year has one day more. -/
def isLeap (year : Nat) : Bool := year % 4 == 0 && (year % 100 != 0 || year % 400 == 0)

/-- The number of days of a month. -/
def daysOf (year month : Nat) : Nat :=
  if month = 2 then if isLeap year then 29 else 28
  else if month = 4 ∨ month = 6 ∨ month = 9 ∨ month = 11 then 30
  else 31

/-- The text is a day of a month of a year, in four, two and two digits of ASCII. -/
def IsFullDate (s : String) : Prop :=
  ∃ year month day : List Char, s.toList = year ++ '-' :: (month ++ '-' :: day) ∧
    year.length = 4 ∧ month.length = 2 ∧ day.length = 2 ∧
    (∀ c ∈ year ++ (month ++ day), c.isDigit = true) ∧
    (1 ≤ ofDigits month ∧ ofDigits month ≤ 12) ∧
    1 ≤ ofDigits day ∧ ofDigits day ≤ daysOf (ofDigits year) (ofDigits month)

namespace Json

/-! ### Equal values -/

/-- The values are equal, numbers by value. Members are kept in the order of their keys, so equal
objects have them one by one. -/
inductive Same : Json → Json → Prop
  | null : Same .null .null
  | bool (b : Bool) : Same (.bool b) (.bool b)
  | num {x y : Number} (h : x.toRat = y.toRat) : Same (.num x) (.num y)
  | str (s : String) : Same (.str s) (.str s)
  | arr {vs ws : List Json} (h : List.Forall₂ Same vs ws) : Same (.arr vs) (.arr ws)
  | obj {vs ws : List (String × Json)} (keys : vs.map (·.1) = ws.map (·.1))
      (h : List.Forall₂ Same (vs.map (·.2)) (ws.map (·.2))) : Same (.obj vs) (.obj ws)

/-! ### Keywords -/

/-- The value is of the type of this name. -/
def IsOfType (v : Json) : String → Prop
  | "null" => v = .null
  | "boolean" => ∃ b, v = .bool b
  | "number" => ∃ x, v = .num x
  | "integer" => ∃ (x : Number) (n : ℤ), v = .num x ∧ x.toRat = n
  | "string" => ∃ s, v = .str s
  | "array" => ∃ items, v = .arr items
  | "object" => ∃ members, v = .obj members
  | _ => False

/-- What a keyword with its argument says about a value, schemas in the argument apart. -/
def Asserts (keyword : String) (argument v : Json) : Prop :=
  match keyword with
  | "type" =>
    ∃ name, (argument = .str name ∨ ∃ names, argument = .arr names ∧ .str name ∈ names) ∧
      v.IsOfType name
  | "enum" => ∃ values, argument = .arr values ∧ ∃ w ∈ values, w.Same v
  | "uniqueItems" =>
    argument = .bool true → ∀ items, v = .arr items → items.Pairwise fun a b => ¬ a.Same b
  | "pattern" =>
    ∃ text regex, argument = .str text ∧ Regex.ofText? text = some regex ∧
      ∀ s, v = .str s → s.toList ∈ regex.language
  | "format" => argument = .str "date" → ∀ s, v = .str s → IsFullDate s
  | _ => True

variable {v : Json}

theorem asserts_type_str {name : String} : Asserts "type" (.str name) v ↔ v.IsOfType name := by
  constructor
  · rintro ⟨_, heq | ⟨names, heq, -⟩, h⟩
    · rwa [Json.str.inj heq]
    · cases heq
  · intro h
    exact ⟨name, .inl rfl, h⟩

theorem asserts_type_arr {names : List String} :
    Asserts "type" (.arr (names.map .str)) v ↔ ∃ name ∈ names, v.IsOfType name := by
  constructor
  · rintro ⟨name, heq | ⟨values, heq, hname⟩, h⟩
    · cases heq
    · rw [← Json.arr.inj heq] at hname
      obtain ⟨_, hmem, heq⟩ := List.mem_map.mp hname
      rw [Json.str.inj heq] at hmem
      exact ⟨name, hmem, h⟩
  · rintro ⟨name, hmem, h⟩
    exact ⟨name, .inr ⟨_, rfl, List.mem_map_of_mem hmem⟩, h⟩

mutual

/-- The schema admits the value. -/
def Admits : Json → Json → Prop
  | .bool b, _ => b = true
  | .obj members, v => AdmitsAll members v
  | _, _ => False

/-- All members of a schema admit the value. -/
def AdmitsAll : List (String × Json) → Json → Prop
  | [], _ => True
  | (keyword, argument) :: rest, v =>
    Asserts keyword argument v ∧
      (keyword = "items" → ∀ items, v = .arr items → ∀ item ∈ items, Admits argument item) ∧
      AdmitsAll rest v

end

/-- A member of a schema admits the value. -/
structure Holds (keyword : String) (argument v : Json) : Prop where
  asserts : Asserts keyword argument v
  items : keyword = "items" → ∀ items, v = .arr items → ∀ item ∈ items, argument.Admits item

theorem holds_iff {keyword : String} {argument : Json} (h : keyword ≠ "items") :
    Holds keyword argument v ↔ Asserts keyword argument v :=
  ⟨Holds.asserts, fun hasserts => ⟨hasserts, fun heq => absurd heq h⟩⟩

theorem admitsAll_iff {members : List (String × Json)} :
    AdmitsAll members v ↔ ∀ member ∈ members, Holds member.1 member.2 v := by
  induction members with
  | nil => simp [AdmitsAll]
  | cons member members ih =>
    obtain ⟨keyword, argument⟩ := member
    rw [AdmitsAll, ih, List.forall_mem_cons]
    exact ⟨fun ⟨hasserts, hitems, hrest⟩ => ⟨⟨hasserts, hitems⟩, hrest⟩,
      fun ⟨h, hrest⟩ => ⟨h.asserts, h.items, hrest⟩⟩

/-- **An admitted value is admitted by every member** of the schema. -/
theorem Admits.holds {schema : Json} (h : schema.Admits v) {keyword : String} {argument : Json}
    (hfield : schema.field? keyword = some argument) : Holds keyword argument v := by
  cases schema with
  | obj members =>
    rw [Admits, admitsAll_iff] at h
    exact h _ (Members.mem_of_lookup_eq_some hfield)
  | _ => cases hfield

/-- **A schema admits what all its keywords admit**, where none stands twice. -/
theorem admits_object_iff {pairs : List (String × Json)}
    (hkeys : pairs.Pairwise fun a b => a.1 ≠ b.1) :
    (Json.object pairs).Admits v ↔ ∀ pair ∈ pairs, Holds pair.1 pair.2 v := by
  constructor
  · intro h pair hpair
    exact h.holds (field?_object_of_mem hkeys hpair)
  · intro h
    unfold object
    rw [Admits, admitsAll_iff]
    exact fun member hmember => h member (Members.mem_ofList hmember)

end Json

end Questionnaire
