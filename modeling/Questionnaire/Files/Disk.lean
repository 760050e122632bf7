import Questionnaire.Files.Path

/-! # Files and folders

`Disk` is a map from places to folders and the contents of files, where a place is the list of names
that lead to it from the folder at hand. A path is followed name by name through folders that exist
(`Disk.follow`), so two paths name the same file when they lead to the same place. The folder at
hand lies in other folders, up to the root (`Disk.here`). An absolute path starts at the root, a
relative one at the folder at hand. Each file has one place: on the way back from a folder around
the folder at hand nothing is added to the place, but the last step outwards is taken off it
(`Disk.child`). -/

namespace Questionnaire

/-- Why a file or folder cannot be used. -/
inductive FileFault where
  | notFound
  | notAFolder
  | isAFolder
  | alreadyThere
  | nameTooLong
  | zeroInName
deriving DecidableEq, Repr

namespace FileFault

/-- The wording of a fault. -/
def message : FileFault → String
  | .notFound => "No such file or directory (os error 2)"
  | .notAFolder => "Not a directory (os error 20)"
  | .isAFolder => "Is a directory (os error 21)"
  | .alreadyThere => "File exists (os error 17)"
  | .nameTooLong => "File name too long (os error 36)"
  | .zeroInName => "file name contained an unexpected NUL byte"

end FileFault

/-- The names that lead to a file or folder. -/
abbrev Place := List String

/-- What stands at a place. -/
inductive DiskEntry where
  | folder
  | file (contents : ByteArray)

/-- Folders and files by place, and the names that lead from the root to the folder at hand. -/
structure Disk where
  entries : List (Place × DiskEntry)
  here : List String

namespace Disk

/-! ### Places -/

/-- The place is the folder at hand or a folder around it. -/
def isAround (place : Place) : Bool := place.all (· == "..")

/-- The place is in the folder at hand. -/
def isInside (place : Place) : Bool := place.head? != some ".."

/-- The place of the root. -/
def root (disk : Disk) : Place := disk.here.map fun _ => ".."

/-- The folder around a place. The root has none but itself. -/
def parent (disk : Disk) (place : Place) : Place :=
  if place = disk.root then place
  else if isAround place then place ++ [".."]
  else place.dropLast

/-- The name leads from a folder around the folder at hand back towards it. -/
def isInwards (disk : Disk) (place : Place) (name : String) : Bool :=
  isAround place && disk.here[disk.here.length - place.length]? == some name

/-- The place of a name in a folder. -/
def child (disk : Disk) (place : Place) (name : String) : Place :=
  if disk.isInwards place name then place.dropLast else place ++ [name]

/-- What stands at a place. The folder at hand and those around it are always there. -/
def entry? (disk : Disk) (place : Place) : Option DiskEntry :=
  if isAround place then some .folder else disk.entries.lookup place

/-- The disk with an entry in place of any earlier one. -/
def insert (disk : Disk) (place : Place) (entry : DiskEntry) : Disk :=
  { disk with entries := (place, entry) :: disk.entries.filter fun e => e.1 != place }

/-- The greatest number of bytes of a name. -/
def maxNameSize : Nat := 255

/-- The greatest number of bytes of a path. -/
def maxPathSize : Nat := 4095

/-- The parts of a path that can be followed. -/
def partsOf (path : String) : Except FileFault (List String) :=
  if path.toList.contains '\x00' then .error .zeroInName
  else if path.utf8ByteSize > maxPathSize then .error .nameTooLong
  else .ok (Path.parts path)

/-- The place at which a path starts. -/
def start (disk : Disk) (path : String) : Place := if Path.isAbsolute path then disk.root else []

/-- The place to which parts of a path lead from a place. Only the last part may name what does not
exist. -/
def followParts (disk : Disk) (place : Place) : List String → Except FileFault Place
  | [] => .ok place
  | part :: rest =>
    match disk.entry? place with
    | none => .error .notFound
    | some (.file _) => .error .notAFolder
    | some .folder =>
      if Path.isIdle part then disk.followParts place rest
      else if part = ".." then disk.followParts (disk.parent place) rest
      else if part.utf8ByteSize > maxNameSize then .error .nameTooLong
      else disk.followParts (disk.child place part) rest

/-- The place to which a path leads. -/
def follow (disk : Disk) (path : String) : Except FileFault Place := do
  if path.isEmpty then throw .notFound
  disk.followParts (disk.start path) (← partsOf path)

/-! ### Looking -/

/-- The contents of a file. -/
def read (disk : Disk) (path : String) : Except FileFault ByteArray := do
  match disk.entry? (← disk.follow path) with
  | some (.file contents) => .ok contents
  | some .folder => .error .isAFolder
  | none => .error .notFound

/-- What stands at the end of a path. -/
def at? (disk : Disk) (path : String) : Option DiskEntry :=
  match disk.follow path with
  | .ok place => disk.entry? place
  | .error _ => none

/-- A path leads to a file. -/
def isFile (disk : Disk) (path : String) : Bool :=
  match disk.at? path with
  | some (.file _) => true
  | _ => false

/-- A path leads to a file or folder. -/
def isTaken (disk : Disk) (path : String) : Bool := (disk.at? path).isSome

/-- The name of a place in a folder. -/
def nameIn? (folder place : Place) : Option String :=
  if place.dropLast = folder then place.getLast? else none

/-- The names of the files in a folder, as far as the path and such a name lead to the file. -/
def fileNames (disk : Disk) (path : String) : Except FileFault (List String) := do
  let place ← disk.follow path
  match disk.entry? place with
  | some .folder =>
    .ok ((disk.entries.filterMap fun entry => nameIn? place entry.1).filter fun name =>
      disk.isFile (Path.join path name))
  | some (.file _) => .error .notAFolder
  | none => .error .notFound

/-- Two paths lead to the same place, at which something stands. -/
def isSame (disk : Disk) (a b : String) : Bool :=
  match disk.follow a, disk.follow b with
  | .ok p, .ok q => p == q && (disk.entry? p).isSome
  | _, _ => false

/-! ### Changing -/

/-- The disk with one more folder, in a folder that exists, at the end of the parts of a path. -/
def makeFolder (disk : Disk) (start : Place) (parts : List String) : Except FileFault Disk := do
  let place ← disk.followParts start (parts.reverse.dropWhile (·.isEmpty)).reverse
  match disk.entry? place with
  | none => .ok (disk.insert place .folder)
  | some _ => .error .alreadyThere

/-- The parts lead to a folder. -/
def isFolder (disk : Disk) (start : Place) (parts : List String) : Bool :=
  match (disk.followParts start parts).toOption.bind disk.entry? with
  | some .folder => true
  | _ => false

/-- The disk with a folder at the end of each path, of which each lies in the next. What is missing
is made from the outermost on. -/
def makeChain (disk : Disk) (start : Place) : List (List String) → Except FileFault Disk
  | [] => .ok disk
  | parts :: outer =>
    match disk.makeFolder start parts with
    | .error .notFound => do
      let disk ← makeChain disk start outer
      orThere disk parts (disk.makeFolder start parts)
    | made => orThere disk parts made
where
  /-- A folder that is already there is as good as a new one. -/
  orThere (disk : Disk) (parts : List String) : Except FileFault Disk → Except FileFault Disk
    | .error .alreadyThere => if disk.isFolder start parts then .ok disk else .error .alreadyThere
    | made => made

/-- The disk with the folders of a path. -/
def makeFolders (disk : Disk) (path : String) : Except FileFault Disk := do
  if path.isEmpty then return disk
  let parts ← partsOf path
  disk.makeChain (disk.start path) (parts :: Path.ancestors parts)

/-- The disk with a file of new contents. -/
def write (disk : Disk) (path : String) (contents : ByteArray) : Except FileFault Disk := do
  let place ← disk.follow path
  match disk.entry? place with
  | some .folder => .error .isAFolder
  | _ => .ok (disk.insert place (.file contents))

/-- The empty disk. The folder at hand stands in the root. -/
def empty : Disk := ⟨[], ["work"]⟩

/-- The disk with a file and the folders that lead to it. -/
def put (disk : Disk) (path : String) (contents : ByteArray) : Except FileFault Disk := do
  let folder := "/".intercalate (Path.parts path).dropLast
  (← disk.makeFolders folder).write path contents

end Disk

end Questionnaire
