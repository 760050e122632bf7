import Questionnaire.CommandLine.Failure

/-! # What a command needs

A command reads and writes files, tells what it does, and holds interviews. `Host` says what it asks
of whatever runs it, so that the commands are the same on a real system and on a `Disk` in memory. A
`Task` is a command, or a part of one, that may fail. -/

namespace Questionnaire.CommandLine

/-- What commands ask of whatever runs them. -/
class Host (m : Type → Type) where
  /-- The contents of a file. -/
  readFile : String → m (Except FileFault ByteArray)
  /-- A path leads to a file. -/
  isFile : String → m Bool
  /-- A path leads to a file or folder. -/
  isTaken : String → m Bool
  /-- The names of the files in a folder, in any order. -/
  fileNames : String → m (Except FileFault (List String))
  /-- Two paths lead to the same place. -/
  isSame : String → String → m Bool
  /-- Folders are made where a path needs them. -/
  makeFolders : String → m (Except FileFault Unit)
  /-- A file gets new contents. -/
  writeFile : String → String → m (Except FileFault Unit)
  /-- Something is told. -/
  tell : Output → m Unit
  /-- An interview is held until no question is open or no more lines come. -/
  converse : Interview.Session → m (Except Interview.Fault Interview.Session)

/-- What holds for every command: how much to tell, the path of the export settings, and the folder
for documents if none is chosen. -/
structure Settings where
  verbose : Bool
  configPath : Option String
  outputFolder : Option String
  /-- Warnings are told. -/
  warns : Bool
deriving DecidableEq, Repr

/-- A command that may fail. -/
abbrev Task (m : Type → Type) (α : Type) : Type := ExceptT Failure m α

variable {m : Type → Type} [Monad m] [Host m] {α : Type}

/-- What has been found out, as a task. -/
def settle (found : Except Failure α) : Task m α := ExceptT.mk (pure found)

/-- An access to files, as a task. -/
def onFiles (access : m (Except FileFault α)) : Task m α :=
  ExceptT.mk do return (← access).mapError .file

/-- Something is told in a task. -/
def tell (output : Output) : Task m Unit := ExceptT.lift (Host.tell output)

/-- A line is printed. -/
def printLine (text : String) : Task m Unit := tell (.line text)

/-- Lines are printed. -/
def printLines : List String → Task m Unit
  | [] => pure ()
  | text :: rest => do
    printLine text
    printLines rest

/-- A warning about a path is told if warnings are. -/
def warnOf (settings : Settings) (message path : String) : Task m Unit :=
  if settings.warns then tell (.warned (message ++ " path=" ++ path)) else pure ()

end Questionnaire.CommandLine
