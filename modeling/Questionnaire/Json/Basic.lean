import Questionnaire.Number.Basic

/-! # JSON values

The members of an object are a list of pairs. Where the order of members carries no meaning they are
kept sorted by key, each key once (`Members.Sorted`): `Members.insert` puts a value at its key in
place of any earlier one, so of two writes to a key the last wins, and `Members.ofList` builds such
a list from any pairs. -/

namespace Questionnaire

/-- A JSON value. -/
inductive Json where
  | null
  | bool (value : Bool)
  | num (value : Number)
  | str (text : String)
  | arr (items : List Json)
  | obj (members : List (String × Json))

instance : Inhabited Json := ⟨.null⟩

/-- A natural number as a JSON value; past the integer range there is none, and it reads null. -/
def Json.ofNat (n : Nat) : Json := ((Number.ofInt? n).map .num).getD .null

/-! ### Sorted members -/

namespace Members

variable {α : Type}

/-- The value stored at a key. -/
def lookup (key : String) : List (String × α) → Option α
  | [] => none
  | (k, v) :: rest => if key = k then some v else lookup key rest

/-- The value stored at its key, in place of any earlier one. -/
def insert (key : String) (value : α) : List (String × α) → List (String × α)
  | [] => [(key, value)]
  | (k, v) :: rest =>
    if key = k then (key, value) :: rest
    else if key < k then (key, value) :: (k, v) :: rest
    else (k, v) :: insert key value rest

/-- The members without a key. -/
def erase (key : String) : List (String × α) → List (String × α)
  | [] => []
  | (k, v) :: rest => if key = k then rest else (k, v) :: erase key rest

/-- The members of a list of pairs; the last of equal keys wins. -/
def ofList (pairs : List (String × α)) : List (String × α) :=
  pairs.foldl (fun members pair => insert pair.1 pair.2 members) []

/-- The keys are in strictly increasing order. -/
def Sorted (members : List (String × α)) : Prop :=
  members.Pairwise fun a b => a.1 < b.1

end Members

namespace Json

mutual

/-- The value with the members of every object in it sorted. -/
def sorted : Json → Json
  | .arr items => .arr (sortedItems items)
  | .obj members => .obj (sortedMembers [] members)
  | value => value

/-- The items of an array, each sorted. -/
def sortedItems : List Json → List Json
  | [] => []
  | item :: rest => sorted item :: sortedItems rest

/-- The members of an object, each sorted and put to those before. -/
def sortedMembers (before : List (String × Json)) : List (String × Json) → List (String × Json)
  | [] => before
  | (key, value) :: rest => sortedMembers (Members.insert key (sorted value) before) rest

end

/-- An object with the given members; the last of equal keys wins. -/
def object (pairs : List (String × Json)) : Json := .obj (Members.ofList pairs)

/-- The value of a member, null for any missing one and for what is no object. -/
def field (value : Json) (key : String) : Json :=
  match value with
  | .obj members => (Members.lookup key members).getD .null
  | _ => .null

/-- The value of a member that is there. -/
def field? (value : Json) (key : String) : Option Json :=
  match value with
  | .obj members => Members.lookup key members
  | _ => none

/-- The value is an object. -/
def isObject : Json → Bool
  | .obj _ => true
  | _ => false

/-- The text of a string. -/
def text? : Json → Option String
  | .str text => some text
  | _ => none

/-- The items of an array. -/
def items? : Json → Option (List Json)
  | .arr items => some items
  | _ => none

/-- The value of a boolean. -/
def bool? : Json → Option Bool
  | .bool value => some value
  | _ => none

/-- The value of a nonnegative integer. -/
def nat? : Json → Option Nat
  | .num (.integer n _) => if 0 ≤ n then some n.toNat else none
  | _ => none

/-- A string, or null for none. -/
def ofText? (text : Option String) : Json := (text.map .str).getD .null

end Json

end Questionnaire
