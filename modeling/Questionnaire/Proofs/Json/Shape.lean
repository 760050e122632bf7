import Mathlib.Data.List.Induction
import Mathlib.Data.String.Basic
import Questionnaire.Json.Basic

/-! # The shape of JSON values

Two properties of values decide whether they come back from their text: what holds of every number
in them (`Json.All`), and that they are not too deep and hold the members of objects in order
(`Json.Tidy`). Both together (`Json.Fits`) are closed under what values are built with; in particular
objects made from any pairs have their members in order (`Json.Fits.object`). -/

namespace Questionnaire

/-! ### Sorted members -/

namespace Members

variable {α : Type}

theorem mem_insert {key : String} {value : α} {members : List (String × α)} {member : String × α}
    (h : member ∈ insert key value members) : member = (key, value) ∨ member ∈ members := by
  induction members with
  | nil => exact .inl (List.mem_singleton.mp h)
  | cons first rest ih =>
    obtain ⟨k, v⟩ := first
    simp only [insert] at h
    split at h
    · rcases List.mem_cons.mp h with h | h
      · exact .inl h
      · exact .inr (List.mem_cons_of_mem _ h)
    · split at h
      · rcases List.mem_cons.mp h with h | h
        · exact .inl h
        · exact .inr h
      · rcases List.mem_cons.mp h with rfl | h
        · exact .inr (by simp)
        · rcases ih h with h | h
          · exact .inl h
          · exact .inr (List.mem_cons_of_mem _ h)

theorem mem_ofList {pairs : List (String × α)} {member : String × α} (h : member ∈ ofList pairs) :
    member ∈ pairs := by
  induction pairs using List.reverseRecOn with
  | nil => cases h
  | append_singleton pairs pair ih =>
    have step : ofList (pairs ++ [pair]) = insert pair.1 pair.2 (ofList pairs) := by
      simp [ofList]
    rw [step] at h
    rcases mem_insert h with rfl | h
    · simp
    · simp [ih h]

theorem sorted_insert {members : List (String × α)} (h : Sorted members) (key : String) (value : α) :
    Sorted (insert key value members) := by
  induction members with
  | nil => exact List.pairwise_singleton _ _
  | cons first rest ih =>
    obtain ⟨k, v⟩ := first
    obtain ⟨hfirst, hrest⟩ := List.pairwise_cons.mp h
    simp only [insert]
    split
    · next heq =>
      subst heq
      exact List.pairwise_cons.mpr ⟨hfirst, hrest⟩
    · next hne =>
      split
      · next hlt =>
        refine List.pairwise_cons.mpr ⟨fun member hmem => ?_, h⟩
        rcases List.mem_cons.mp hmem with rfl | hmem
        · exact hlt
        · exact lt_trans hlt (hfirst member hmem)
      · next hnlt =>
        have hgt : k < key := lt_of_le_of_ne (not_lt.mp hnlt) (Ne.symm hne)
        refine List.pairwise_cons.mpr ⟨fun member hmem => ?_, ih hrest⟩
        rcases mem_insert hmem with rfl | hmem
        · exact hgt
        · exact hfirst member hmem

/-- **Members that are made from pairs are sorted.** -/
theorem sorted_ofList (pairs : List (String × α)) : Sorted (ofList pairs) := by
  induction pairs using List.reverseRecOn with
  | nil => exact List.Pairwise.nil
  | append_singleton pairs pair ih =>
    have step : ofList (pairs ++ [pair]) = insert pair.1 pair.2 (ofList pairs) := by
      simp [ofList]
    rw [step]
    exact sorted_insert ih _ _

/-- A key above all others is put at the end. -/
theorem insert_eq_append {members : List (String × α)} {key : String}
    (h : ∀ member ∈ members, member.1 < key) (value : α) :
    insert key value members = members ++ [(key, value)] := by
  induction members with
  | nil => rfl
  | cons first rest ih =>
    obtain ⟨k, v⟩ := first
    have hk : k < key := h (k, v) (by simp)
    rw [insert, if_neg (ne_of_gt hk), if_neg (not_lt_of_gt hk),
      ih fun member hmem => h member (List.mem_cons_of_mem _ hmem)]
    rfl

section Steps
variable {key k : String} (value v : α) (rest : List (String × α))

theorem insert_cons_of_lt (h : key < k) :
    insert key value ((k, v) :: rest) = (key, value) :: (k, v) :: rest := by
  rw [insert, if_neg (ne_of_lt h), if_pos h]

theorem insert_cons_self : insert k value ((k, v) :: rest) = (k, value) :: rest := by
  rw [insert, if_pos rfl]

theorem insert_cons_of_gt (h : k < key) :
    insert key value ((k, v) :: rest) = (k, v) :: insert key value rest := by
  rw [insert, if_neg (ne_of_gt h), if_neg (not_lt_of_gt h)]

end Steps

theorem insert_comm_of_lt {key key' : String} (h : key < key') (value value' : α)
    (members : List (String × α)) :
    insert key' value' (insert key value members) =
      insert key value (insert key' value' members) := by
  induction members with
  | nil => simp only [insert, if_neg (ne_of_gt h), if_neg (not_lt_of_gt h), if_neg (ne_of_lt h),
      if_pos h]
  | cons first rest ih =>
    obtain ⟨k, v⟩ := first
    rcases lt_trichotomy key k with hk | rfl | hk
    · rw [insert_cons_of_lt _ _ _ hk, insert_cons_of_gt _ _ _ h]
      -- the smaller key goes in front, wherever the greater one is put
      rcases lt_trichotomy key' k with hk' | rfl | hk'
      · rw [insert_cons_of_lt _ _ _ hk', insert_cons_of_lt _ _ _ h]
      · rw [insert_cons_self, insert_cons_of_lt _ _ _ h]
      · rw [insert_cons_of_gt _ _ _ hk', insert_cons_of_lt _ _ _ hk]
    · rw [insert_cons_self, insert_cons_of_gt _ _ _ h, insert_cons_of_gt _ _ _ h,
        insert_cons_self]
    · have hk' : k < key' := lt_trans hk h
      rw [insert_cons_of_gt _ _ _ hk, insert_cons_of_gt _ _ _ hk', insert_cons_of_gt _ _ _ hk',
        insert_cons_of_gt _ _ _ hk, ih]

/-- **The order of writes to different keys does not count.** -/
theorem insert_comm {key key' : String} (h : key ≠ key') (value value' : α)
    (members : List (String × α)) :
    insert key' value' (insert key value members) =
      insert key value (insert key' value' members) := by
  rcases lt_or_gt_of_ne h with hlt | hgt
  · exact insert_comm_of_lt hlt value value' members
  · exact (insert_comm_of_lt hgt value' value members).symm

end Members

namespace Json

/-- What is kept by arrays and objects holds of every value. -/
@[elab_as_elim]
theorem induction {motive : Json → Prop} (null : motive .null) (bool : ∀ b, motive (.bool b))
    (num : ∀ n, motive (.num n)) (str : ∀ s, motive (.str s))
    (arr : ∀ items : List Json, (∀ item ∈ items, motive item) → motive (.arr items))
    (obj : ∀ members : List (String × Json), (∀ member ∈ members, motive member.2) →
      motive (.obj members)) : ∀ v, motive v
  | .null => null
  | .bool b => bool b
  | .num n => num n
  | .str s => str s
  | .arr items => arr items fun item hitem =>
    have := List.sizeOf_lt_of_mem hitem
    induction null bool num str arr obj item
  | .obj members => obj members fun member hmember =>
    have := List.sizeOf_lt_of_mem hmember
    have : sizeOf member.2 < sizeOf member := by cases member; simp
    induction null bool num str arr obj member.2
termination_by v => sizeOf v

/-! ### The numbers of a value -/

/-- Every number in the value has the property. -/
inductive All (p : Number → Prop) : Json → Prop
  | null : All p .null
  | bool (b : Bool) : All p (.bool b)
  | num {n : Number} (h : p n) : All p (.num n)
  | str (s : String) : All p (.str s)
  | arr {items : List Json} (h : ∀ item ∈ items, All p item) : All p (.arr items)
  | obj {members : List (String × Json)} (h : ∀ member ∈ members, All p member.2) :
    All p (.obj members)

namespace All

variable {p q : Number → Prop}

theorem imp (h : ∀ n, p n → q n) {v : Json} (hv : v.All p) : v.All q := by
  induction hv with
  | null => exact .null
  | bool b => exact .bool b
  | num hn => exact .num (h _ hn)
  | str s => exact .str s
  | arr _ ih => exact .arr ih
  | obj _ ih => exact .obj ih

end All

/-! ### Depth and order -/

/-- **The value is at most `levels` deep, and its objects hold their members in order.** -/
inductive Tidy : Nat → Json → Prop
  | null {levels : Nat} : Tidy levels .null
  | bool {levels : Nat} (b : Bool) : Tidy levels (.bool b)
  | num {levels : Nat} (n : Number) : Tidy levels (.num n)
  | str {levels : Nat} (s : String) : Tidy levels (.str s)
  | arr {levels : Nat} {items : List Json} (h : ∀ item ∈ items, Tidy levels item) :
    Tidy (levels + 1) (.arr items)
  | obj {levels : Nat} {members : List (String × Json)} (hsorted : Members.Sorted members)
    (h : ∀ member ∈ members, Tidy levels member.2) : Tidy (levels + 1) (.obj members)

namespace Tidy

theorem mono {levels levels' : Nat} (hle : levels ≤ levels') {v : Json} (h : Tidy levels v) :
    Tidy levels' v := by
  induction h generalizing levels' with
  | null => exact .null
  | bool b => exact .bool b
  | num n => exact .num n
  | str s => exact .str s
  | @arr levels items _ ih =>
    obtain ⟨n, rfl⟩ : ∃ n, levels' = n + 1 := ⟨levels' - 1, by omega⟩
    exact .arr fun item hitem => ih item hitem (by omega)
  | @obj levels members hsorted _ ih =>
    obtain ⟨n, rfl⟩ : ∃ n, levels' = n + 1 := ⟨levels' - 1, by omega⟩
    exact .obj hsorted fun member hmem => ih member hmem (by omega)

end Tidy

/-! ### Plain values -/

/-- **The value is at most `levels` deep, its numbers are integers, and its objects are small**: they
have fewer than 24 members, so that the length of one goes with its first byte in CBOR. -/
inductive Plain : Nat → Json → Prop
  | null {levels : Nat} : Plain levels .null
  | bool {levels : Nat} (b : Bool) : Plain levels (.bool b)
  | integer {levels : Nat} (n : Int) (range : Number.IntegerRange n) :
    Plain levels (.num (.integer n range))
  | str {levels : Nat} (s : String) : Plain levels (.str s)
  | arr {levels : Nat} {items : List Json} (h : ∀ item ∈ items, Plain levels item) :
    Plain (levels + 1) (.arr items)
  | obj {levels : Nat} {members : List (String × Json)} (hsmall : members.length < 24)
    (h : ∀ member ∈ members, Plain levels member.2) : Plain (levels + 1) (.obj members)

namespace Plain

theorem all {p : Number → Prop} (hp : ∀ n range, p (.integer n range)) {levels : Nat} {v : Json}
    (h : Plain levels v) : v.All p := by
  induction h with
  | null => exact .null
  | bool b => exact .bool b
  | integer n range => exact .num (hp n range)
  | str s => exact .str s
  | arr _ ih => exact .arr ih
  | obj _ _ ih => exact .obj ih

theorem mono {levels levels' : Nat} (hle : levels ≤ levels') {v : Json} (h : Plain levels v) :
    Plain levels' v := by
  induction h generalizing levels' with
  | null => exact .null
  | bool b => exact .bool b
  | integer n range => exact .integer n range
  | str s => exact .str s
  | @arr levels items _ ih =>
    obtain ⟨n, rfl⟩ : ∃ n, levels' = n + 1 := ⟨levels' - 1, by omega⟩
    exact .arr fun item hitem => ih item hitem (by omega)
  | @obj levels members hsmall _ ih =>
    obtain ⟨n, rfl⟩ : ∃ n, levels' = n + 1 := ⟨levels' - 1, by omega⟩
    exact .obj hsmall fun member hmem => ih member hmem (by omega)

theorem arr_map {α : Type} {encode : α → Json} {levels : Nat} (h : ∀ x, Plain levels (encode x))
    (xs : List α) : Plain (levels + 1) (.arr (xs.map encode)) := by
  refine arr fun item hitem => ?_
  obtain ⟨x, -, rfl⟩ := List.mem_map.mp hitem
  exact h x

end Plain

/-! ### Numbers and depth together -/

/-- The numbers of the value have a property, and it is tidy. -/
structure Fits (p : Number → Prop) (levels : Nat) (v : Json) : Prop where
  numbers : v.All p
  tidy : v.Tidy levels

namespace Fits

variable {p q : Number → Prop} {levels : Nat}

theorem null : Fits p levels .null := ⟨.null, .null⟩

theorem bool (b : Bool) : Fits p levels (.bool b) := ⟨.bool b, .bool b⟩

theorem str (s : String) : Fits p levels (.str s) := ⟨.str s, .str s⟩

theorem ofText? (text : Option String) : Fits p levels (.ofText? text) := by
  cases text with
  | none => exact null
  | some s => exact str s

theorem arr {items : List Json} (h : ∀ item ∈ items, Fits p levels item) :
    Fits p (levels + 1) (.arr items) :=
  ⟨.arr fun item hitem => (h item hitem).numbers, .arr fun item hitem => (h item hitem).tidy⟩

theorem arr_map {α : Type} {encode : α → Json} {xs : List α}
    (h : ∀ x ∈ xs, Fits p levels (encode x)) : Fits p (levels + 1) (.arr (xs.map encode)) := by
  refine arr fun item hitem => ?_
  obtain ⟨x, hx, rfl⟩ := List.mem_map.mp hitem
  exact h x hx

theorem obj {members : List (String × Json)} (hsorted : Members.Sorted members)
    (h : ∀ member ∈ members, Fits p levels member.2) : Fits p (levels + 1) (.obj members) :=
  ⟨.obj fun member hmem => (h member hmem).numbers,
    .obj hsorted fun member hmem => (h member hmem).tidy⟩

theorem object {pairs : List (String × Json)} (h : ∀ pair ∈ pairs, Fits p levels pair.2) :
    Fits p (levels + 1) (.object pairs) :=
  obj (Members.sorted_ofList pairs) fun member hmem => h member (Members.mem_ofList hmem)

theorem imp (hpq : ∀ n, p n → q n) {v : Json} (h : Fits p levels v) : Fits q levels v :=
  ⟨h.numbers.imp hpq, h.tidy⟩

theorem mono {levels' : Nat} (hle : levels ≤ levels') {v : Json} (h : Fits p levels v) :
    Fits p levels' v :=
  ⟨h.numbers, h.tidy.mono hle⟩

end Fits

end Json

end Questionnaire
