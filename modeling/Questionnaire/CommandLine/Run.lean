import Questionnaire.CommandLine.Help
import Questionnaire.CommandLine.Invocation

/-! # Running commands

`Command.run` is the task of a command, on any host. `runArguments` reads the arguments first, and
its outcome tells whether there was a command to run and whether it failed. -/

namespace Questionnaire.CommandLine

variable {m : Type → Type} [Monad m] [Host m]

/-- The task of a command. -/
def Command.run (settings : Settings) : Command → Task m Unit
  | .visible form answers question => showVisibility settings form answers question
  | .preview form answers mode => showPreview settings form answers mode
  | .compile form answers destination prints =>
    compileFiles settings form answers destination prints
  | .batch form folder pattern destination =>
    compileFolder settings form folder pattern destination
  | .validate form answers => validateFiles settings form answers
  | .fill form answers destination printsAnswers =>
    fillIn settings form answers destination printsAnswers
  | .schema kind form answers => showSchema settings kind form answers
  | .lint form => lintFile form

/-- How a run of the program ends. -/
inductive Outcome where
  | done
  | stopped (stop : Stop)
  | failed (failure : Failure)

/-- The exit code of an outcome. -/
def Outcome.code : Outcome → Nat
  | .done | .stopped (.help _ _) | .stopped .version => 0
  | .failed _ => 1
  | .stopped (.fault _) => 2

/-- The version of the program. -/
def versionText : String := "formdoc 0.3.2\n"

/-- What is printed if no command is run. -/
def Stop.told (environment : Environment) : Stop → List Output
  | .help command detailed => [.printed (Help.text environment.configPath command detailed)]
  | .version => [.printed versionText]
  | .fault _ => []

/-- The program is run with some arguments. -/
def runArguments (environment : Environment) (tokens : List String) : m Outcome := do
  match Invocation.ofArguments environment tokens with
  | .error stop =>
    (stop.told environment).forM Host.tell
    return .stopped stop
  | .ok invocation =>
    match ← (invocation.command.run invocation.settings).run with
    | .ok () => return .done
    | .error failure => return .failed failure

end Questionnaire.CommandLine
