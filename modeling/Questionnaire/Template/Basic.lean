import Questionnaire.Json.Basic

/-! # Templates of short texts

A template is text with tags. A tag shows a value, or opens and closes a block that is shown under a
condition, repeated for each element of a value, or given a part of the data as its own. A template
may define other templates and show them. `Template.Node` is a template taken apart. -/

namespace Questionnaire.Template

/-- Where a path starts. -/
inductive Origin where
  /-- The value of the block that encloses so many others around the tag. -/
  | value (levels : Nat)
  /-- The data of the whole template. -/
  | root
  /-- What the repetitions know of their progress, from so many blocks outwards. -/
  | progress (levels : Nat)
deriving DecidableEq, Repr

/-- A place in the data. -/
structure Path where
  origin : Origin
  steps : List String
deriving DecidableEq, Repr

/-- What a tag shows or hands to a function. -/
inductive Expr where
  | literal (value : Json)
  | path (path : Path)
  | call (name : String) (args : List Expr)
  /-- An argument that is handed over under a name. -/
  | named (name : String) (value : Expr)

/-- What stands at the front of a block: its name, its arguments, and the names that its body has
for the element that is shown and for the key or index of that element. -/
structure Head where
  name : String
  args : List Expr
  params : List String

/-- A place at which another template is shown: its name, which may be the outcome of a call, what
is handed to it, and the blanks that its lines start with. -/
structure Inclusion where
  name : Expr
  args : List Expr
  indent : List Char
  /-- The first line starts with the blanks, too. -/
  indentsFirst : Bool

/-- A part of a template. -/
inductive Node where
  | text (chars : List Char)
  | value (expr : Expr)
  /-- The outcome of a call in parentheses, or of the function that has the outcome for a name. -/
  | outcome (call : Expr)
  /-- A block with its body, and what is shown in its place otherwise. -/
  | block (head : Head) (body : List Node) (otherwise : Option (List Node))
  /-- Another template, and what is shown when there is none of the name. -/
  | inclusion (inclusion : Inclusion) (body : Option (List Node))
  /-- A note to what follows, such as the definition of another template by its body. -/
  | decoration (head : Head) (body : Option (List Node))

end Questionnaire.Template
