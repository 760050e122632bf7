import Questionnaire.CommandLine.Run

/-! # A host in memory

A `World` holds the files, the lines that are still to be typed, and what has been told. Commands
run in it as on a real system, and what they do can be read off the world afterwards. -/

namespace Questionnaire.CommandLine

/-- What surrounds a command. -/
structure World where
  disk : Disk
  lines : List String
  told : List Output

namespace World

/-- What a function finds on the disk. -/
def look {α : Type} (f : Disk → α) : StateM World α := do return f (← get).disk

/-- The disk is changed unless that fails. -/
def change (f : Disk → Except FileFault Disk) : StateM World (Except FileFault Unit) := do
  let world ← get
  match f world.disk with
  | .ok disk =>
    set { world with disk := disk }
    return .ok ()
  | .error fault => return .error fault

/-- Something is told. -/
def tell (output : Output) : StateM World Unit :=
  modify fun world => { world with told := world.told ++ [output] }

/-- An interview takes all lines that are still to be typed. -/
def converse (session : Interview.Session) :
    StateM World (Except Interview.Fault Interview.Session) := do
  let world ← get
  let (told, ending) := session.converse world.lines
  set { world with lines := [], told := world.told ++ told }
  return ending

end World

instance : Host (StateM World) where
  readFile path := World.look (·.read path)
  isFile path := World.look (·.isFile path)
  isTaken path := World.look (·.isTaken path)
  fileNames path := World.look (·.fileNames path)
  isSame a b := World.look (·.isSame a b)
  makeFolders path := World.change (·.makeFolders path)
  writeFile path contents := World.change (·.write path contents.toUTF8)
  tell := World.tell
  converse := World.converse

namespace World

/-- The lines of a text; the end of the text ends the last one. -/
def linesOf (text : String) : List String :=
  match (Text.split '\n' text).reverse with
  | "" :: lines => lines.reverse
  | lines => lines.reverse

/-- The world with some files, a text to be typed, and nothing told. -/
def ofFiles (files : List (String × ByteArray)) (typed : String) : Except FileFault World := do
  let disk ← files.foldlM (fun disk file => disk.put file.1 file.2) Disk.empty
  return ⟨disk, linesOf typed, []⟩

/-- The outcome of the program with some arguments, and the world after it. -/
def run (world : World) (environment : Environment) (arguments : List String) :
    Outcome × World :=
  StateT.run (runArguments environment arguments : StateM World Outcome) world

end World

end Questionnaire.CommandLine
