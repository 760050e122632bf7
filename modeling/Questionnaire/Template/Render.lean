import Questionnaire.Form.Encode
import Questionnaire.Template.Parse

/-! # Filling in templates

`Template.render?` shows a template with some data. Nothing is escaped, and a path that leads
nowhere shows nothing. A function needs values of its type, a block an argument, and an included
template a definition or a body; other names are unknown. Where something is missing, and for a
template that cannot be taken apart, there is no text. -/

namespace Questionnaire.Template

/-! ### Values -/

mutual

/-- A value as text. -/
def display : Json → String
  | .null => ""
  | .bool b => toString b
  | .num n => n.jsonText
  | .str s => s
  | .arr items => "[" ++ displayItems items ++ "]"
  | .obj _ => "[object]"

/-- The items of a list as text, with commas between them. -/
def displayItems : List Json → String
  | [] => ""
  | [item] => display item
  | item :: rest => display item ++ ", " ++ displayItems rest

end

/-- The value of a block, what a repetition knows of its progress, and the names that the block has
for values. -/
structure Scope where
  value : Json
  progress : List (String × Json)
  params : List (String × Json)

/-- The template itself, with its data. -/
def Scope.outermost (data : Json) : Scope := ⟨data, [], []⟩

/-- A step into a value: an index into a list, or a key of an object. An index that is no number has
no outcome, and a value that is not there is null. -/
def step? (value : Json) (name : String) : Option Json :=
  match value with
  | .arr items => (Number.readWord? name).map fun n => items[n]?.getD .null
  | .obj members => some ((Members.lookup name members).getD .null)
  | _ => some .null

/-- Steps into a value. -/
def follow? (value : Json) (steps : List String) : Option Json := steps.foldlM step? value

/-- The value that a path leads to from the innermost scope. A block that has a name of its own for
a value comes before the data, and a path out of all blocks ends in the innermost one. -/
def lookup? (root : Json) (scopes : List Scope) (path : Path) : Option Json :=
  match path.origin, path.steps with
  | .root, steps => follow? root steps
  | .progress levels, name :: _ =>
    some ((((scopes.drop levels).find? (!·.progress.isEmpty)).bind
      (Members.lookup name ·.progress)).getD .null)
  | .progress _, [] => some .null
  | .value levels, steps =>
    match steps.head?.bind fun name => scopes.findSome? (Members.lookup name ·.params) with
    | some value => follow? value steps.tail
    | none => follow? (((scopes[levels]? <|> scopes.head?).map (·.value)).getD .null) steps

/-! ### Expressions -/

/-- The arguments that are not handed over under a name. -/
def positional (args : List Expr) (values : List Json) : List Json :=
  (args.zip values).filterMap fun
    | (.named _ _, _) => none
    | (_, value) => some value

/-- The argument that is handed over under a name; the last one of that name counts. -/
def option? (name : String) (args : List Expr) (values : List Json) : Option Json :=
  (args.zip values).reverse.findSome? fun
    | (.named name' _, value) => if name = name' then some value else none
    | _ => none

/-- The outcome of a function for arguments with some values. -/
def Function.outcome? (function : Function) (args : List Expr) (values : List Json) :
    Option Json :=
  if function = .note ∧ !Function.isNoteLevel (option? "level" args values) then none
  else function.result? (positional args values)

/-- The outcome of a call; a block without a body shows nothing. -/
def call? (name : String) (args : List Expr) (values : List Json) : Option Json :=
  match Function.ofName? name, BlockRule.ofName? name with
  | some function, _ => function.outcome? args values
  | none, some rule =>
    if (positional args values).isEmpty && rule != .always then none else some (.str "")
  | none, none => none

mutual

/-- The value of an expression. -/
def eval? (root : Json) (scopes : List Scope) : Expr → Option Json
  | .literal value => some value
  | .path path => lookup? root scopes path
  | .named _ value => eval? root scopes value
  | .call name args => do call? name args (← evalAll? root scopes args)

/-- The values of expressions. -/
def evalAll? (root : Json) (scopes : List Scope) : List Expr → Option (List Json)
  | [] => some []
  | arg :: rest => do return (← eval? root scopes arg) :: (← evalAll? root scopes rest)

end

/-- What is shown for the outcome of a call in parentheses: a call if it names a function. -/
def outcome? (value : Json) : Option Json :=
  if isKnownName (display value) then call? (display value) [] [] else some value

/-! ### Blocks -/

/-- The names of a block with the values that they have for an element and its key. Of two equal
names the one for the key counts. -/
def bindParams (params : List String) (value key : Json) : List (String × Json) :=
  (params.zip [value, key]).reverse

/-- The scopes of elements with their keys or indices and what else is known of each. -/
def elementScopes (params : List String) (elements : List (Json × Json × List (String × Json))) :
    List Scope :=
  elements.zipIdx.map fun ((value, key, progress), index) =>
    ⟨value, [("first", .bool (index == 0)), ("index", .ofNat index),
      ("last", .bool (index + 1 == elements.length))] ++ progress, bindParams params value key⟩

/-- The scopes of the items of a list. -/
def itemScopes (params : List String) (items : List Json) : List Scope :=
  elementScopes params (items.zipIdx.map fun (item, index) => (item, .ofNat index, []))

/-- The scopes of the members of an object. -/
def memberScopes (params : List String) (members : List (String × Json)) : List Scope :=
  elementScopes params
    (members.map fun (key, value) => (value, .str key, [("key", .str key)]))

/-- How often, and with which scope of its own, a block is shown; none means that the alternative
is. -/
inductive Showing where
  | alternative
  | unchanged
  | inScopes (scopes : List Scope)

/-- A block that is shown under a condition. -/
def Showing.when (condition : Bool) : Showing := if condition then .unchanged else .alternative

/-- A block that is shown in some scopes. -/
def Showing.each (scopes : List Scope) : Showing :=
  if scopes.isEmpty then .alternative else .inScopes scopes

/-- How a block is shown for its first argument; `counted` says that zero fulfils a condition. -/
def showing (params : List String) (counted : Bool) (rule : BlockRule) (value : Json) : Showing :=
  match rule, value with
  | .whenTrue, value => .when (isTruthy counted value)
  | .whenFalse, value => .when (!isTruthy counted value)
  | .within, value =>
    if isTruthy false value then
      .inScopes [⟨value, [], if params.length = 1 then bindParams params value .null else []⟩]
    else .alternative
  | .forEach, .arr items => .each (itemScopes params items)
  | .forEach, .obj members => .each (memberScopes params members)
  | .forEach, _ => .alternative
  | .always, _ => .unchanged

/-- How a block is shown for the values of its arguments. -/
def showing? (head : Head) (rule : BlockRule) (values : List Json) : Option Showing :=
  let counted := (option? "includeZero" head.args values).bind Json.bool? == some true
  match rule, positional head.args values with
  | .always, _ => some .unchanged
  | rule, value :: _ => some (showing head.params counted rule value)
  | _, [] => none

/-! ### Included templates -/

/-- What is known of other templates while a template is filled in. -/
structure Library where
  /-- The templates that have been defined, the last one first. -/
  named : List (String × List Node)
  /-- The bodies of the inclusions around, the innermost first. -/
  bodies : List (List Node)
  /-- The number of bodies that are being shown themselves. -/
  depth : Nat

/-- The filling in of a part of a template, which may define other templates. -/
abbrev Filling (α : Type) := StateT Library Option α

namespace Library

/-- Nothing is known. -/
def empty : Library := ⟨[], [], 0⟩

/-- The name of the body of the inclusion around. -/
def bodyName : String := "@partial-block"

/-- The template of a name; when there is none, the inclusion's own body. -/
def find? (library : Library) (name : String) (body : Option (List Node)) : Option (List Node) :=
  (if name = bodyName then library.bodies[library.depth]? else library.named.lookup name).or body

/-- The library inside the template of a name that is included with a body. -/
def inside (library : Library) (name : String) (body : Option (List Node)) : Library :=
  { library with
    bodies := body.toList ++ library.bodies
    depth := if name = bodyName then library.depth + 1 else library.depth - 1 }

/-- The library behind an inclusion: the templates that it has defined stay. -/
def behind (library inner : Library) : Library := { library with named := inner.named }

end Library

/-- A text whose lines start with some blanks. -/
def indented (indent : List Char) (indentsFirst : Bool) (text : String) : String :=
  let rec lines : List Char → List Char
    | '\n' :: c :: cs => '\n' :: indent ++ lines (c :: cs)
    | c :: cs => c :: lines cs
    | [] => []
  if text.isEmpty then ""
  else String.ofList ((if indentsFirst then indent else []) ++ lines text.toList)

/-- The named arguments with their values. -/
def options (args : List Expr) (values : List Json) : List (String × Json) :=
  (args.zip values).filterMap fun
    | (.named name _, value) => some (name, value)
    | _ => none

/-- The value that an included template shows: the first argument, or the value at hand, with what
is handed over under names. -/
def includedValue (scopes : List Scope) (args : List Expr) (values : List Json) : Json :=
  let value := match positional args values with
    | value :: _ => value
    | [] => (scopes.head?.map (·.value)).getD .null
  match options args values with
  | [] => value
  | members =>
    let own := match value with
      | .obj members => members
      | _ => []
    .obj (members.foldl (fun all (name, value) => Members.insert name value all) own)

/-- A note is heeded: a template is defined by its body. -/
def decorate (root : Json) (scopes : List Scope) (head : Head) (body : Option (List Node)) :
    Filling Unit := do
  let values ← evalAll? root scopes head.args
  match head.name, positional head.args values, body with
  | "inline", .str name :: _, some nodes =>
    modify fun library => { library with named := (name, nodes) :: library.named }
  | _, _, _ => failure

/-- The notes in front of the parts of a body are heeded. -/
def decorateAll (root : Json) (scopes : List Scope) : List Node → Filling Unit
  | [] => pure ()
  | .decoration head body :: rest => do
    decorate root scopes head body
    decorateAll root scopes rest
  | _ :: rest => decorateAll root scopes rest

/-- The text of an inclusion, given the text of a template's nodes in some scopes. -/
def renderInclusion (render : List Scope → List Node → Filling String) (root : Json)
    (scopes : List Scope) (place : Inclusion) (body : Option (List Node)) : Filling String := do
  decorateAll root scopes (body.getD [])
  let name ← eval? root scopes place.name
  let values ← evalAll? root scopes place.args
  let outer ← get
  let nodes ← outer.find? (display name) body
  set (outer.inside (display name) body)
  let text ← render [⟨includedValue scopes place.args values, [], []⟩] nodes
  modify outer.behind
  return indented place.indent place.indentsFirst text

/-! ### Nodes -/

mutual

/-- The text of a node; `render` gives that of an included template. -/
def renderNode (render : List Scope → List Node → Filling String) (root : Json)
    (scopes : List Scope) : Node → Filling String
  | .text chars => return String.ofList chars
  | .value e => return display (← eval? root scopes e)
  | .outcome call => do return display (← outcome? (← eval? root scopes call))
  | .inclusion place body => renderInclusion render root scopes place body
  | .decoration head body => do
    decorate root scopes head body
    return ""
  | .block head body otherwise => do
    let values ← evalAll? root scopes head.args
    match Function.ofName? head.name, BlockRule.ofName? head.name with
    | none, none => failure
    | some function, _ =>
      let outcome ← function.outcome? head.args values
      if !function.isCondition then return display outcome
      else if isTruthy false outcome then renderNodes render root scopes body
      else renderOptional render root scopes otherwise
    | none, some rule =>
      match ← showing? head rule values with
      | .unchanged => renderNodes render root scopes body
      | .inScopes inner =>
        let texts ← inner.mapM fun scope => renderNodes render root (scope :: scopes) body
        return String.join texts
      | .alternative => renderOptional render root scopes otherwise

/-- The text of nodes. -/
def renderNodes (render : List Scope → List Node → Filling String) (root : Json)
    (scopes : List Scope) : List Node → Filling String
  | [] => return ""
  | node :: rest => do
    return (← renderNode render root scopes node) ++ (← renderNodes render root scopes rest)

/-- The text of an alternative, if there is one. -/
def renderOptional (render : List Scope → List Node → Filling String) (root : Json)
    (scopes : List Scope) : Option (List Node) → Filling String
  | none => return ""
  | some nodes => renderNodes render root scopes nodes

end

/-- The greatest number of inclusions inside one another. -/
def maxInclusions : Nat := 1000

/-- The text of nodes in which inclusions nest so many levels at most. -/
def renderNested (root : Json) : Nat → List Scope → List Node → Filling String
  | 0, _, _ => failure
  | levels + 1, scopes, nodes => renderNodes (renderNested root levels) root scopes nodes

/-- A template with some data. -/
def render? (template : String) (data : Json) : Option String := do
  (renderNested data maxInclusions [.outermost data] (← parse? template)).run' .empty

/-! ### File names -/

/-- The data that the template of a file name can show. -/
def formData (form : Form) : Json :=
  Json.object [("form", Json.object [("id", form.id.toJson), ("title", .str form.title),
    ("description", .ofText? form.description)])]

/-- A text as part of a path: both kinds of slash become underscores. -/
def plainName (text : String) : String :=
  String.ofList (text.toList.map fun c => if c = '/' ∨ c = '\\' then '_' else c)

/-- The name of a form's document by a template. -/
def outputFilename? (template : String) (form : Form) : Option String :=
  (render? template (formData form)).map plainName

end Questionnaire.Template
