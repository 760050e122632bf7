import Questionnaire.Number.Typed
import Questionnaire.Pattern.Reader

/-! # Log filters

A filter says, in directives between commas, from which level on the log is kept. A directive is a
level for everything, or the name of a part of the program with a level or without one, which keeps
all of its log. Between brackets it may name a span of the program and, in braces there, fields with
or without values; the log outside of spans is subject only to directives without span and value. Of
the directives about an entry of the log the most specific one counts (`LogDirective.compare`).

A directive is read character by character (`LogDirective.Draft.step?`). Blanks around it are
skipped while it is read, but its parts are cut out of the whole text at the places that the
characters have without the blanks. -/

namespace Questionnaire.CommandLine

/-- What a directive is about, and whether it keeps warnings. -/
structure LogDirective where
  /-- The front of the names that the directive is about; none stands for all names. -/
  target : Option String
  /-- The directive is about what happens in a span of the program. -/
  inSpan : Bool
  fields : List String
  /-- The directive asks for the value of a field. -/
  hasValues : Bool
  keepsWarnings : Bool
deriving DecidableEq, Repr

namespace LogDirective

/-! ### Levels -/

/-- The levels by name, each with whether it keeps warnings. -/
def levels : List (String × Bool) :=
  [("error", false), ("warn", true), ("info", true), ("debug", true), ("trace", true),
    ("off", false)]

/-- Whether warnings are kept at a level, which is a number up to five or a name. -/
def keepsAt? (level : String) : Option Bool :=
  match Number.readWord? level with
  | some n => if n ≤ 5 then some (2 ≤ n) else none
  | none => if level.isEmpty then some false else levels.lookup (level.map Char.toLower)

/-! ### Reading -/

/-- Where in a directive a character stands; a part that has begun knows its first place. -/
inductive Place where
  | start
  | name (first : Nat)
  | span (first : Nat)
  | field (first : Nat)
  | behindFields
  | behindSpan
  | level (first : Nat)
deriving DecidableEq, Repr

/-- A directive of which the front has been read. -/
structure Draft where
  place : Place
  target : Option String
  inSpan : Bool
  fields : List String
  hasValues : Bool
deriving DecidableEq, Repr

/-- The part of a text from one place up to another. -/
def slice (text : List Char) (first last : Nat) : String :=
  String.ofList ((text.take last).drop first)

namespace Draft

/-- A directive of which nothing has been read. -/
def empty : Draft := ⟨.start, none, false, [], false⟩

/-- A field between braces: its name, and its value if it has one, a number or a pattern. -/
def addField? (draft : Draft) (text : String) : Option Draft :=
  match Text.split '=' text with
  | [""] => none
  | [name] => some { draft with fields := draft.fields ++ [name] }
  | name :: value :: _ =>
    if (Number.readReal? value).isSome || Pattern.isPattern value then
      some { draft with fields := draft.fields ++ [name], hasValues := true }
    else none
  | [] => none

/-- One more character at a place of the text. -/
def step? (text : List Char) (draft : Draft) (c : Char) (i : Nat) : Option Draft :=
  match draft.place with
  | .start =>
    if c = '[' then some { draft with place := .span (i + 1) }
    else if ['-', ':', '_'].contains c || Text.isLetterOrDigit c then
      some { draft with place := .name i }
    else none
  | .name first =>
    if c = '=' then some { draft with place := .level (i + 1), target := slice text first i }
    else if c = '[' then some { draft with place := .span (i + 1), target := slice text first i }
    else some draft
  | .span first =>
    if c = ']' then some { draft with place := .behindSpan, inSpan := true }
    else if c = '{' then
      some { draft with place := .field (i + 1), inSpan := !(slice text first i).isEmpty }
    else some draft
  | .field first =>
    if c = '}' then { draft with place := .behindFields }.addField? (slice text first i)
    else some draft
  | .behindFields => if c = ']' then some { draft with place := .behindSpan } else none
  | .behindSpan =>
    if c = '=' then some { draft with place := .level (i + 1) } else none
  | .level _ => some draft

/-- The directive with a level. -/
def complete (draft : Draft) (keepsWarnings : Bool) : LogDirective :=
  ⟨draft.target, draft.inSpan, draft.fields, draft.hasValues, keepsWarnings⟩

/-- The directive whose last character has been read. -/
def finish? (text : List Char) (draft : Draft) : Option LogDirective :=
  match draft.place with
  | .name first =>
    let word := slice text first text.length
    match keepsAt? word with
    | some keeps => some (draft.complete keeps)
    | none => some ({ draft with target := word }.complete true)
  | .level first =>
    let word := slice text first text.length
    if word.isEmpty then some (draft.complete true) else (keepsAt? word).map draft.complete
  | .behindSpan => some (draft.complete true)
  | _ => none

end Draft

/-- The directive of a text. -/
def ofText? (text : List Char) : Option LogDirective := do
  let draft ← (Text.trimChars text).zipIdx.foldlM
    (fun draft (c, i) => draft.step? text c i) Draft.empty
  draft.finish? text

/-! ### Deciding -/

/-- The directive is about a warning: it asks for no span or value, for a front of the name, and for
fields that warnings have. -/
def covers (name : String) (fields : List String) (directive : LogDirective) : Bool :=
  !directive.inSpan && !directive.hasValues &&
    directive.target.all (fun target => target.toList.isPrefixOf name.toList) &&
    directive.fields.all fields.contains

/-- How specific two directives are: by the length of the name, by the number of fields, and by the
fields as words. -/
def compare (a b : LogDirective) : Ordering :=
  (Ord.compare (length a) (length b)).then
    ((Ord.compare a.fields.length b.fields.length).then
      (if a.fields < b.fields then .lt else if b.fields < a.fields then .gt else .eq))
where
  /-- The length of the name; having one counts more than having none. -/
  length (directive : LogDirective) : Nat :=
    (directive.target.map (·.utf8ByteSize + 1)).getD 0

end LogDirective

/-- The name under which the log is kept. -/
def logTarget : String := "formdoc"

/-- The fields of a warning. -/
def warningFields : List String := ["message", "path"]

/-- The directive that counts for warnings: the most specific one, and of equal ones the last. -/
def decisive? (directives : List LogDirective) : Option LogDirective :=
  (directives.filter (·.covers logTarget warningFields)).foldl (fun best directive =>
    match best with
    | none => some directive
    | some other => if directive.compare other == .lt then some other else some directive) none

/-- Whether warnings are shown under a filter. One that cannot be read is passed over. -/
def showsWarnings (filter : Option String) : Bool :=
  match filter with
  | none => true
  | some text =>
    match ((Text.splitChars ',' text.toList).filter fun d => !d.isEmpty).mapM
        LogDirective.ofText? with
    | none => true
    | some directives => ((decisive? directives).map (·.keepsWarnings)).getD false

end Questionnaire.CommandLine
