import Questionnaire.CommandLine.Run
import Questionnaire.Text.Quoted

/-! # The program

The commands on a real system: files, the terminal and the environment. -/

namespace Questionnaire.CommandLine

/-- The fault of an error of the system. -/
def faultOf : IO.Error → FileFault
  | .noFileOrDirectory _ _ _ => .notFound
  | .alreadyExists _ _ _ => .alreadyThere
  | .inappropriateType _ _ _ => .notAFolder
  | _ => .notFound

/-- The result of an access to the system, or its fault. -/
def access {α : Type} (action : IO α) : IO (Except FileFault α) := do
  try return .ok (← action) catch e => return .error (faultOf e)

/-- The result of an access, or a value in its place. -/
def accessOr {α : Type} (value : α) (action : IO α) : IO α := do
  try action catch _ => return value

/-- The names of the files in a folder. -/
def namesIn (folder : String) : IO (List String) := do
  let root ← IO.FS.realPath folder
  let entries ← root.readDir
  let files ← entries.toList.filterM fun entry => do return !(← entry.path.isDir)
  return files.map (·.fileName)

/-- A path leads to a file or folder. -/
def standsThere (path : String) : IO Bool := do
  let _ ← IO.FS.realPath path
  return true

/-- A path leads to a file. -/
def leadsToFile (path : String) : IO Bool := do
  return !(← (← IO.FS.realPath path).isDir)

/-- Something is told on the terminal. -/
def tellTerminal : Output → IO Unit
  | .printed text => do
    IO.print text
    (← IO.getStdout).flush
  | .complained line => IO.eprintln line
  | .warned line => IO.eprintln ("WARN " ++ line)

/-- An interview is held at the terminal. -/
partial def converseTerminal (session : Interview.Session) :
    IO (Except Interview.Fault Interview.Session) := do
  match session.asked? with
  | none => return .ok session
  | some q =>
    (session.asking q).forM tellTerminal
    let line ← (← IO.getStdin).getLine
    if line.isEmpty then return .ok session
    match session.take q line with
    | .error fault => return .error fault
    | .ok (next, said) =>
      said.forM tellTerminal
      converseTerminal next

instance : Host IO where
  readFile path := access (IO.FS.readBinFile path)
  isFile path := accessOr false (leadsToFile path)
  isTaken path := accessOr false (standsThere path)
  fileNames path := access (namesIn path)
  isSame a b := accessOr false do return (← IO.FS.realPath a) == (← IO.FS.realPath b)
  makeFolders path := access (IO.FS.createDirAll path)
  writeFile path contents := access (IO.FS.writeFile path contents)
  tell := tellTerminal
  converse := converseTerminal

/-- The environment of the program. -/
def readEnvironment : IO Environment := do
  return ⟨← IO.getEnv "FORMDOC_CONFIG", ← IO.getEnv "FORMDOC_OUTPUT_DIR", ← IO.getEnv "RUST_LOG"⟩

/-- What is told at the end of a run. -/
def tellOutcome : Outcome → IO Unit
  | .stopped (.fault fault) =>
    IO.eprintln ("error: " ++ fault.message ++ "\n\nFor more information, try '--help'.")
  | .failed failure => IO.eprintln ("Error: " ++ Text.quote failure.message)
  | .done | .stopped _ => pure ()

end Questionnaire.CommandLine

/-- The program with its arguments. -/
def main (arguments : List String) : IO UInt32 := do
  let outcome ← Questionnaire.CommandLine.runArguments
    (← Questionnaire.CommandLine.readEnvironment) arguments
  Questionnaire.CommandLine.tellOutcome outcome
  return UInt32.ofNat outcome.code
