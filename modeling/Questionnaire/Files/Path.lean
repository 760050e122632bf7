import Questionnaire.Text.Blank

/-! # Paths

A path is the text of names with slashes between them. Its last name has a stem and an extension,
which are what stands before and behind the last dot; a dot in front of all else belongs to the
stem. -/

namespace Questionnaire.Path

/-- The path is not relative to the folder at hand. -/
def isAbsolute (path : String) : Bool := path.toList.head? == some '/'

/-- A name in a folder. An absolute path leads away from the folder. -/
def join (folder name : String) : String :=
  if isAbsolute name then name
  else if folder.isEmpty ∨ folder.toList.getLast? = some '/' then folder ++ name
  else folder ++ "/" ++ name

/-- The texts between the slashes. -/
def parts (path : String) : List String := Text.split '/' path

/-- A part that names no place of its own. -/
def isIdle (part : String) : Bool := part.isEmpty || part == "."

/-- The parts that lead from where a path starts to the folders around its end, the innermost first.
Parts that name no place are left out, but for a first one. -/
def ancestors (parts : List String) : List (List String) :=
  let steps := parts.head?.toList.filter (!·.isEmpty) ++ parts.tail.filter (!isIdle ·)
  ((List.range steps.length).tail.map steps.take).reverse

/-- The last name of a path. -/
def fileName? (path : String) : Option String :=
  match ((parts path).filter fun part => !isIdle part).getLast? with
  | some ".." => none
  | name => name

/-- A text before and behind its last dot. -/
def splitAtLastDot? (text : List Char) : Option (List Char × List Char) :=
  match text.reverse.dropWhile (· != '.') with
  | [] => none
  | _ :: front => some (front.reverse, (text.reverse.takeWhile (· != '.')).reverse)

/-- The stem and the extension of a name. -/
def splitName (name : String) : String × Option String :=
  match splitAtLastDot? name.toList with
  | none | some ([], _) => (name, none)
  | some (stem, extension) => (String.ofList stem, some (String.ofList extension))

/-- The stem of the last name of a path. -/
def stem? (path : String) : Option String := (fileName? path).map fun name => (splitName name).1

/-- The extension of the last name of a path. -/
def extension? (path : String) : Option String :=
  (fileName? path).bind fun name => (splitName name).2

/-- The last name of the path has an extension, in capitals or not. -/
def hasExtension (extension path : String) : Bool :=
  (extension? path).any fun e => e.toLower == extension

end Questionnaire.Path
