import Mathlib.Data.List.Induction
import Questionnaire.Grouping
import Questionnaire.Json.Basic

/-! # What is found at a key

Three containers answer a key with what was put there: a grouping with the elements that have it
(`Grouping.group_ofList`), a map that was filled from a list with the value of the last element
that has it (`getElem?_foldl_insert`), and the members of an object with the value beside it
(`Members.lookup_eq_some_iff`). -/

namespace Questionnaire

/-! ### Groupings -/

namespace Grouping

variable {α : Type}

theorem group_cons (grouping : Grouping α) (key key' : String) (x : α) :
    (grouping.cons key x).group key' =
      if key = key' then x :: grouping.group key' else grouping.group key' := by
  simp only [group, cons, Std.TreeMap.getElem?_alter, Std.compare_eq_iff_eq]
  split
  · next h => subst h; rfl
  · rfl

/-- **A group holds the elements with its key, in the order of the list.** -/
theorem group_ofList (key? : α → Option String) (xs : List α) (key : String) :
    (ofList key? xs).group key = xs.filter fun x => key? x == some key := by
  induction xs with
  | nil => simp [ofList, group]
  | cons x xs ih =>
    rw [List.filter_cons]
    cases hx : key? x with
    | none =>
      have step : ofList key? (x :: xs) = ofList key? xs := by
        rw [ofList, List.foldr_cons, hx]
        rfl
      simp [step, ih]
    | some k =>
      have step : ofList key? (x :: xs) = (ofList key? xs).cons k x := by
        rw [ofList, List.foldr_cons, hx]
        rfl
      simp only [step, group_cons, ih]
      by_cases hk : k = key
      · simp [hk]
      · simp [hk]

end Grouping

/-! ### Maps that are filled from a list -/

section Filling
variable {α β : Type} (key : α → String) (val : α → β)

/-- **Of the elements with a key, a map holds the value of the last one.** -/
theorem getElem?_foldl_insert (xs : List α) (k : String) (map : Std.TreeMap String β) :
    (xs.foldl (fun m x => m.insert (key x) (val x)) map)[k]? =
      ((xs.reverse.find? fun x => key x == k).map val).or map[k]? := by
  induction xs generalizing map with
  | nil => rfl
  | cons x xs ih =>
    rw [List.foldl_cons, ih, List.reverse_cons, List.find?_append, Std.TreeMap.getElem?_insert]
    cases xs.reverse.find? fun y => key y == k with
    | some y => rfl
    | none => by_cases hx : key x = k <;> simp [hx]

theorem foldl_insert_of_not_mem {xs : List α} {k : String} (h : ∀ x ∈ xs, key x ≠ k)
    (map : Std.TreeMap String β) :
    (xs.foldl (fun m x => m.insert (key x) (val x)) map)[k]? = map[k]? := by
  have hnone : (xs.reverse.find? fun x => key x == k) = none := by simpa using h
  rw [getElem?_foldl_insert, hnone]
  rfl

/-- A map holds the value that the elements with the key have in common. -/
theorem foldl_insert_of_mem {xs : List α} {k : String} {b : β} (hmem : ∃ x ∈ xs, key x = k)
    (h : ∀ x ∈ xs, key x = k → val x = b) (map : Std.TreeMap String β) :
    (xs.foldl (fun m x => m.insert (key x) (val x)) map)[k]? = some b := by
  rw [getElem?_foldl_insert]
  cases hfind : xs.reverse.find? fun x => key x == k with
  | none =>
    obtain ⟨x, hx, hk⟩ := hmem
    exact absurd (by simpa using hk) (List.find?_eq_none.mp hfind x (List.mem_reverse.mpr hx))
  | some x =>
    have hx : x ∈ xs := List.mem_reverse.mp (List.mem_of_find?_eq_some hfind)
    have hk : key x = k := by simpa using List.find?_some hfind
    rw [Option.map_some, h x hx hk]
    rfl

/-- **A map does not depend on the order of the elements** that it is filled from, nor on their
repetition, where elements with one key have one value. -/
theorem foldl_insert_of_mem_iff {xs ys : List α} (hmem : ∀ x, x ∈ ys ↔ x ∈ xs)
    (hval : ∀ x ∈ xs, ∀ y ∈ xs, key x = key y → val x = val y) (k : String)
    (map : Std.TreeMap String β) :
    (ys.foldl (fun m x => m.insert (key x) (val x)) map)[k]? =
      (xs.foldl (fun m x => m.insert (key x) (val x)) map)[k]? := by
  by_cases hk : ∃ x ∈ xs, key x = k
  · obtain ⟨x, hx, rfl⟩ := hk
    have hsame : ∀ y ∈ xs, key y = key x → val y = val x := fun y hy hyx => hval y hy x hx hyx
    rw [foldl_insert_of_mem key val ⟨x, hx, rfl⟩ hsame,
      foldl_insert_of_mem key val ⟨x, (hmem x).mpr hx, rfl⟩ fun y hy => hsame y ((hmem y).mp hy)]
  · have hnone : ∀ x ∈ xs, key x ≠ k := fun x hx hxk => hk ⟨x, hx, hxk⟩
    rw [foldl_insert_of_not_mem key val hnone,
      foldl_insert_of_not_mem key val fun y hy => hnone y ((hmem y).mp hy)]

end Filling

/-! ### Members of objects -/

namespace Members

variable {α β : Type}

theorem lookup_insert (key key' : String) (value : α) (members : List (String × α)) :
    lookup key' (insert key value members) =
      if key' = key then some value else lookup key' members := by
  induction members with
  | nil => simp [insert, lookup]
  | cons member rest ih =>
    obtain ⟨k, v⟩ := member
    simp only [insert]
    split
    · next h => subst h; simp only [lookup]; split <;> rfl
    · split
      · simp [lookup]
      · next h _ =>
        simp only [lookup, ih]
        by_cases hk : key' = k
        · simp [hk, Ne.symm h]
        · simp [hk]

theorem lookup_append (key : String) (members more : List (String × α)) :
    lookup key (members ++ more) = (lookup key members).or (lookup key more) := by
  induction members with
  | nil => rfl
  | cons member rest ih =>
    obtain ⟨k, v⟩ := member
    simp only [List.cons_append, lookup, ih]
    split <;> rfl

theorem lookup_map (f : α → β) (key : String) (members : List (String × α)) :
    lookup key (members.map fun member => (member.1, f member.2)) =
      (lookup key members).map f := by
  induction members with
  | nil => rfl
  | cons member rest ih =>
    obtain ⟨k, v⟩ := member
    simp only [List.map_cons, lookup, ih]
    split <;> rfl

/-- **Of the pairs that members are made from, the last with the key is found.** -/
theorem lookup_ofList (key : String) (pairs : List (String × α)) :
    lookup key (ofList pairs) = lookup key pairs.reverse := by
  induction pairs using List.reverseRecOn with
  | nil => rfl
  | append_singleton pairs pair ih =>
    have step : ofList (pairs ++ [pair]) = insert pair.1 pair.2 (ofList pairs) := by
      simp [ofList]
    rw [step, lookup_insert, ih]
    simp [lookup]

theorem mem_of_lookup_eq_some {key : String} {value : α} {members : List (String × α)}
    (h : lookup key members = some value) : (key, value) ∈ members := by
  induction members with
  | nil => simp [lookup] at h
  | cons member rest ih =>
    obtain ⟨k, v⟩ := member
    simp only [lookup] at h
    split at h
    · next hk => cases h; simp [hk]
    · exact List.mem_cons_of_mem _ (ih h)

theorem lookup_eq_none_iff {key : String} {members : List (String × α)} :
    lookup key members = none ↔ ∀ member ∈ members, member.1 ≠ key := by
  induction members with
  | nil => simp [lookup]
  | cons member rest ih =>
    obtain ⟨k, v⟩ := member
    simp only [lookup, List.forall_mem_cons]
    split
    · next hk => simp [hk]
    · next hk => simp [ih, Ne.symm hk]

/-- **Where no key is repeated, what is found is what the members hold.** -/
theorem lookup_eq_some_iff {key : String} {value : α} {members : List (String × α)}
    (hkeys : members.Pairwise fun a b => a.1 ≠ b.1) :
    lookup key members = some value ↔ (key, value) ∈ members := by
  refine ⟨mem_of_lookup_eq_some, fun hmem => ?_⟩
  induction hkeys with
  | nil => simp at hmem
  | @cons member rest hne _ ih =>
    obtain ⟨k, v⟩ := member
    simp only [lookup]
    rcases List.mem_cons.mp hmem with h | h
    · cases h; simp
    · have hk : k ≠ key := hne _ h
      simp [Ne.symm hk, ih h]

/-- The members that a map is written as are found as in the map. -/
theorem lookup_map_toList (f : β → α) (map : Std.TreeMap String β) (key : String) :
    lookup key (map.toList.map fun (k, v) => (k, f v)) = map[key]?.map f := by
  have hkeys : (map.toList.map fun (k, v) => (k, f v)).Pairwise fun a b => a.1 ≠ b.1 := by
    rw [List.pairwise_map]
    refine map.ordered_keys_toList.imp fun h heq => ?_
    have h' := Std.compare_eq_iff_eq.mpr heq
    rw [h] at h'
    cases h'
  cases hget : map[key]? with
  | none =>
    rw [Option.map_none, lookup_eq_none_iff]
    intro member hmem heq
    obtain ⟨⟨k, v⟩, hkv, rfl⟩ := List.mem_map.mp hmem
    rw [Std.TreeMap.mem_toList_iff_getElem?_eq_some, show k = key from heq, hget] at hkv
    cases hkv
  | some v =>
    rw [Option.map_some, lookup_eq_some_iff hkeys]
    exact List.mem_map.mpr ⟨(key, v), Std.TreeMap.mem_toList_iff_getElem?_eq_some.mpr hget, rfl⟩

end Members

namespace Json

theorem field?_object (pairs : List (String × Json)) (key : String) :
    (object pairs).field? key = Members.lookup key pairs.reverse :=
  Members.lookup_ofList key pairs

/-- A member is found where no key stands twice. -/
theorem field?_object_of_mem {pairs : List (String × Json)} {key : String} {value : Json}
    (hkeys : pairs.Pairwise fun a b => a.1 ≠ b.1) (h : (key, value) ∈ pairs) :
    (object pairs).field? key = some value := by
  have hreverse : pairs.reverse.Pairwise fun a b => a.1 ≠ b.1 :=
    List.pairwise_reverse.mpr (hkeys.imp Ne.symm)
  rw [field?_object, Members.lookup_eq_some_iff hreverse]
  exact List.mem_reverse.mpr h

theorem field_eq_getD (value : Json) (key : String) :
    value.field key = (value.field? key).getD .null := by
  cases value <;> rfl

theorem field_object (pairs : List (String × Json)) (key : String) :
    (object pairs).field key = (Members.lookup key pairs.reverse).getD .null := by
  rw [← Members.lookup_ofList]
  rfl

end Json

end Questionnaire
