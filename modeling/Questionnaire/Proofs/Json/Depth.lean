import Questionnaire.Proofs.Json.Reread

/-! # How deep values nest

Text is read up to a number of levels. What is read nests no deeper and has its members in order
(`Json.tidy_of_ofText`), and of values with both properties the reader refuses those that are deeper
(`Json.depth_le_of_ofText_compact`). So a value that was read once is read again from its own text,
but an object that holds it may not be. -/

namespace Questionnaire

namespace Json

mutual

/-- The number of levels that the value nests; 0 for what is neither an array nor an object. -/
def depth : Json → Nat
  | .arr items => depthItems items + 1
  | .obj members => depthMembers members + 1
  | _ => 0

/-- The number of levels of the deepest item. -/
def depthItems : List Json → Nat
  | [] => 0
  | item :: rest => max (depth item) (depthItems rest)

/-- The number of levels of the deepest member. -/
def depthMembers : List (String × Json) → Nat
  | [] => 0
  | (_, value) :: rest => max (depth value) (depthMembers rest)

end

theorem depthItems_le_iff {items : List Json} {n : Nat} :
    depthItems items ≤ n ↔ ∀ item ∈ items, item.depth ≤ n := by
  induction items with
  | nil => simp [depthItems]
  | cons item items ih => rw [depthItems, Nat.max_le, ih, List.forall_mem_cons]

theorem depthMembers_le_iff {members : List (String × Json)} {n : Nat} :
    depthMembers members ≤ n ↔ ∀ member ∈ members, member.2.depth ≤ n := by
  induction members with
  | nil => simp [depthMembers]
  | cons member members ih =>
    obtain ⟨key, value⟩ := member
    rw [depthMembers, Nat.max_le, ih, List.forall_mem_cons]

theorem depth_arr_le_iff {items : List Json} {n : Nat} :
    (arr items).depth ≤ n + 1 ↔ ∀ item ∈ items, item.depth ≤ n := by
  rw [depth, Nat.add_le_add_iff_right, depthItems_le_iff]

theorem depth_obj_le_iff {members : List (String × Json)} {n : Nat} :
    (obj members).depth ≤ n + 1 ↔ ∀ member ∈ members, member.2.depth ≤ n := by
  rw [depth, Nat.add_le_add_iff_right, depthMembers_le_iff]

theorem depth_arr_pos (items : List Json) : 0 < (arr items).depth := by
  rw [depth]
  omega

theorem depth_obj_pos (members : List (String × Json)) : 0 < (obj members).depth := by
  rw [depth]
  omega

theorem depth_lt_of_mem_items {items : List Json} {item : Json} (h : item ∈ items) :
    item.depth < (arr items).depth := by
  rw [depth, Nat.lt_succ_iff]
  exact depthItems_le_iff.mp (Nat.le_refl _) item h

theorem depth_lt_of_field? {v w : Json} {key : String} (h : v.field? key = some w) :
    w.depth < v.depth := by
  cases v with
  | obj members =>
    rw [depth, Nat.lt_succ_iff]
    exact depthMembers_le_iff.mp (Nat.le_refl _) _ (Members.mem_of_lookup_eq_some h)
  | _ => cases h

theorem Tidy.depth_le {levels : Nat} {v : Json} (h : v.Tidy levels) : v.depth ≤ levels := by
  induction h with
  | arr _ ih => exact depth_arr_le_iff.mpr ih
  | obj _ _ ih => exact depth_obj_le_iff.mpr ih
  | _ => exact Nat.zero_le _

/-- A tidy value is tidy for all levels that it does not exceed. -/
theorem Tidy.of_depth_le {levels : Nat} {v : Json} (h : v.Tidy levels) :
    ∀ {n : Nat}, v.depth ≤ n → v.Tidy n := by
  induction h with
  | null => intro n _; exact .null
  | bool b => intro n _; exact .bool b
  | num x => intro n _; exact .num x
  | str s => intro n _; exact .str s
  | @arr levels items _ ih =>
    intro n hn
    have hpos := depth_arr_pos items
    obtain ⟨n, rfl⟩ : ∃ m, n = m + 1 := ⟨n - 1, by omega⟩
    exact .arr fun item hitem => ih item hitem (depth_arr_le_iff.mp hn item hitem)
  | @obj levels members hsorted _ ih =>
    intro n hn
    have hpos := depth_obj_pos members
    obtain ⟨n, rfl⟩ : ∃ m, n = m + 1 := ⟨n - 1, by omega⟩
    exact .obj hsorted fun member hmem => ih member hmem (depth_obj_le_iff.mp hn member hmem)

end Json

/-! ### What is read is tidy -/

namespace Wire

/-- What is kept by lists, maps and wrapping holds of all data. -/
@[elab_as_elim]
theorem induction {motive : Wire → Prop} (null : motive .null) (undefined : motive .undefined)
    (bool : ∀ b, motive (.bool b)) (integer : ∀ n, motive (.integer n))
    (double : ∀ x, motive (.double x)) (text : ∀ s, motive (.text s))
    (bytes : ∀ bytes, motive (.bytes bytes))
    (list : ∀ (items : List Wire) (closed : Bool), (∀ item ∈ items, motive item) →
      motive (.list items closed))
    (map : ∀ (entries : List (Wire × Wire)) (closed : Bool),
      (∀ entry ∈ entries, motive entry.2) → motive (.map entries closed))
    (wrapped : ∀ w, motive w → motive (.wrapped w)) (unkept : motive .unkept)
    (broken : motive .broken) : ∀ w, motive w
  | .null => null
  | .undefined => undefined
  | .bool b => bool b
  | .integer n => integer n
  | .double x => double x
  | .text s => text s
  | .bytes b => bytes b
  | .list items closed => list items closed fun item hitem =>
    have := List.sizeOf_lt_of_mem hitem
    induction null undefined bool integer double text bytes list map wrapped unkept broken item
  | .map entries closed => map entries closed fun entry hentry =>
    have := List.sizeOf_lt_of_mem hentry
    have : sizeOf entry.2 < sizeOf entry := by cases entry; simp
    induction null undefined bool integer double text bytes list map wrapped unkept broken entry.2
  | .wrapped w =>
    wrapped w (induction null undefined bool integer double text bytes list map wrapped unkept
      broken w)
  | .unkept => unkept
  | .broken => broken
termination_by w => sizeOf w

end Wire

namespace Decode

open Json

variable {encoding : Encoding} {n : Nat}

theorem enter_eq_ok {inner : Source} (h : Source.enter ⟨encoding, some n⟩ = .ok inner) :
    ∃ m, n = m + 1 ∧ inner = ⟨encoding, some m⟩ := by
  cases n with
  | zero => cases h
  | succ m => exact ⟨m, rfl, (Except.ok.inj h).symm⟩

theorem tidy_of_jsonItems {source : Source} {closed : Bool} {ws : List Wire}
    (hws : ∀ w ∈ ws, ∀ v, json source w = .ok v → v.Tidy n) {items : List Json}
    (h : jsonItems source closed ws = .ok items) : ∀ item ∈ items, item.Tidy n := by
  induction ws generalizing items with
  | nil =>
    rw [jsonItems] at h
    split at h
    · cases h
      intro item hitem
      cases hitem
    · cases h
  | cons w ws ih =>
    rw [jsonItems] at h
    obtain ⟨value, hvalue, h⟩ := exists_of_bind_eq_ok h
    obtain ⟨values, hvalues, h⟩ := exists_of_bind_eq_ok h
    cases h
    rw [List.forall_mem_cons] at hws ⊢
    exact ⟨hws.1 value hvalue, ih hws.2 hvalues⟩

/-- What is put to tidy members in order leaves them tidy and in order. -/
theorem tidy_of_jsonMembers {source : Source} {closed : Bool} {entries : List (Wire × Wire)}
    (hentries : ∀ entry ∈ entries, ∀ v, json source entry.2 = .ok v → v.Tidy n)
    {before members : List (String × Json)} (hsorted : Members.Sorted before)
    (hbefore : ∀ member ∈ before, member.2.Tidy n)
    (h : jsonMembers source closed before entries = .ok members) :
    Members.Sorted members ∧ ∀ member ∈ members, member.2.Tidy n := by
  induction entries generalizing before with
  | nil =>
    rw [jsonMembers] at h
    split at h
    · cases h
      exact ⟨hsorted, hbefore⟩
    · cases h
  | cons entry entries ih =>
    obtain ⟨key, w⟩ := entry
    rw [jsonMembers] at h
    obtain ⟨name, -, h⟩ := exists_of_bind_eq_ok h
    obtain ⟨value, hvalue, h⟩ := exists_of_bind_eq_ok h
    rw [List.forall_mem_cons] at hentries
    refine ih hentries.2 (Members.sorted_insert hsorted name value) (fun member hmem => ?_) h
    rcases Members.mem_insert hmem with rfl | hmem
    · exact hentries.1 value hvalue
    · exact hbefore member hmem

/-- **What is taken from data is tidy** and nests no deeper than the source allows. -/
theorem tidy_of_json {w : Wire} : ∀ {n : Nat} {v : Json},
    json ⟨encoding, some n⟩ w = .ok v → v.Tidy n := by
  induction w using Wire.induction with
  | null => intro n v h; cases h; exact .null
  | undefined => intro n v h; cases h; exact .null
  | bool b => intro n v h; cases h; exact .bool b
  | integer i =>
    intro n v h
    rw [json] at h
    split at h
    · cases h; exact .num _
    · cases h
  | double x =>
    intro n v h
    cases h
    cases x
    · exact .num _
    all_goals exact .null
  | text s => intro n v h; cases h; exact .str s
  | bytes b => intro n v h; cases h
  | list items closed ih =>
    intro n v h
    rw [json] at h
    obtain ⟨inner, henter, h⟩ := exists_of_bind_eq_ok h
    obtain ⟨values, hvalues, hv⟩ := exists_of_bind_eq_ok h
    obtain ⟨m, rfl, rfl⟩ := enter_eq_ok henter
    cases hv
    exact .arr (tidy_of_jsonItems (fun w hw v hv => ih w hw hv) hvalues)
  | map entries closed ih =>
    intro n v h
    rw [json] at h
    obtain ⟨inner, henter, h⟩ := exists_of_bind_eq_ok h
    obtain ⟨members, hmembers, hv⟩ := exists_of_bind_eq_ok h
    obtain ⟨m, rfl, rfl⟩ := enter_eq_ok henter
    cases hv
    obtain ⟨hsorted, htidy⟩ := tidy_of_jsonMembers (fun entry he v hv => ih entry he hv)
      List.Pairwise.nil (fun member hmem => by cases hmem) hmembers
    exact .obj hsorted htidy
  | wrapped w ih => intro n v h; exact ih h
  | unkept => intro n v h; cases h
  | broken => intro n v h; cases h

/-- **Values that nest deeper than the source allows are refused.** -/
theorem depth_le_of_json {v : Json} : ∀ {n : Nat} {w : Json},
    json ⟨encoding, some n⟩ (Wire.ofReread v) = .ok w → v.depth ≤ n := by
  induction v using Json.induction with
  | null => intro n w _; exact Nat.zero_le n
  | bool b => intro n w _; exact Nat.zero_le n
  | num x => intro n w _; exact Nat.zero_le n
  | str s => intro n w _; exact Nat.zero_le n
  | arr items ih =>
    intro n w h
    obtain ⟨inner, henter, hitems⟩ := exists_of_json_arr h
    obtain ⟨m, rfl, rfl⟩ := enter_eq_ok henter
    rw [depth_arr_le_iff]
    intro item hitem
    obtain ⟨value, hvalue⟩ := hitems item hitem
    exact ih item hitem hvalue
  | obj members ih =>
    intro n w h
    obtain ⟨inner, henter, hmembers⟩ := exists_of_json_obj h
    obtain ⟨m, rfl, rfl⟩ := enter_eq_ok henter
    rw [depth_obj_le_iff]
    intro member hmember
    obtain ⟨value, hvalue⟩ := hmembers member hmember
    exact ih member hmember hvalue

end Decode

namespace Json

/-- **What a text is read as is tidy**, within the levels that are read. -/
theorem tidy_of_ofText {s : String} {v : Json} (h : ofText s = .ok v) :
    v.Tidy Decode.Source.textLevels := by
  unfold ofText Decode.ofText at h
  generalize Wire.ofJsonText s = data at h
  obtain ⟨w, ended⟩ := data
  obtain ⟨value, hjson, hended⟩ := exists_of_bind_eq_ok h
  cases ended with
  | false => cases hended
  | true =>
    obtain rfl := Except.ok.inj hended
    exact Decode.tidy_of_json hjson

/-- The text of a value is read only within the levels that are read. -/
theorem depth_le_of_ofText_compact {v w : Json} (h : ofText v.compact = .ok w) :
    v.depth ≤ Decode.Source.textLevels := by
  unfold ofText Decode.ofText at h
  rw [Wire.ofJsonText_compact] at h
  obtain ⟨value, hjson, -⟩ := exists_of_bind_eq_ok h
  exact Decode.depth_le_of_json hjson

end Json

end Questionnaire
