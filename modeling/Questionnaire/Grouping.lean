import Std.Data.TreeMap

/-! # Grouping by a key

`Grouping.ofList` collects the elements of a list that have the same key, in the order of the list.
Elements without a key are in no group. -/

namespace Questionnaire

/-- The elements of a list by their keys. -/
structure Grouping (α : Type) where
  groups : Std.TreeMap String (List α)

namespace Grouping

variable {α : Type}

/-- The grouping with an element put in front of the group of a key. -/
def cons (grouping : Grouping α) (key : String) (x : α) : Grouping α :=
  ⟨grouping.groups.alter key fun group => some (x :: group.getD [])⟩

/-- The elements of a list in groups. -/
def ofList (key? : α → Option String) (xs : List α) : Grouping α :=
  xs.foldr (fun x grouping =>
    match key? x with
    | some key => grouping.cons key x
    | none => grouping) ⟨∅⟩

/-- The elements with a key, in the order of the list. -/
def group (grouping : Grouping α) (key : String) : List α := grouping.groups[key]?.getD []

end Grouping

end Questionnaire
