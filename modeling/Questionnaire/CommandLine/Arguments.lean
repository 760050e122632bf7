/-! # Command line arguments

A `Grammar` lists the options of a command by their long names: flags stand alone, the others take a
value, either behind an equals sign or as the next argument, which then must not look like an
option. `Grammar.read` sorts arguments into flags, values and the rest, which belongs to no option.
The first argument that does not fit is the one that is reported. No option may be given twice, and
two hyphens alone end the options. -/

namespace Questionnaire.CommandLine

/-- The values that can be given. -/
inductive ValueKind where
  | anyText
  /-- Any text but the empty one. -/
  | path
  | oneOf (words : List String)
deriving DecidableEq, Repr

/-- A value is one of its kind. -/
def ValueKind.accepts : ValueKind → String → Bool
  | .anyText, _ => true
  | .path, value => !value.isEmpty
  | .oneOf words, value => words.contains value

/-- The arguments that a command knows. -/
structure Grammar where
  /-- The name of the command, or none for the arguments before it. -/
  command : Option String
  /-- Names of options without a value, each with its letter if it has one. -/
  flags : List (String × Option Char)
  /-- Names of options with a value. -/
  values : List (String × ValueKind)
  /-- The arguments that belong to no option, by name. -/
  places : List (String × ValueKind)
  /-- Reading ends at the first argument that belongs to no option. -/
  stopsAtPlace : Bool
deriving DecidableEq, Repr

/-- Why arguments are not understood. -/
inductive UsageFault where
  | unknownOption (token : String)
  | missingValue (option : String)
  | surplusValue (option : String)
  | repeated (option : String)
  | badValue (option value : String)
  | missingOption (option : String)
  | surplusArgument (argument : String)
  | unknownCommand (name : String)
  | missingCommand
deriving DecidableEq, Repr

namespace UsageFault

/-- The wording of a fault. -/
def message : UsageFault → String
  | .unknownOption token => "unexpected argument '" ++ token ++ "'"
  | .missingValue option => "a value is required for '--" ++ option ++ "'"
  | .surplusValue option => "no value is expected for '--" ++ option ++ "'"
  | .repeated option => "'--" ++ option ++ "' cannot be used multiple times"
  | .badValue option value => "invalid value '" ++ value ++ "' for '" ++ option ++ "'"
  | .missingOption option => "'" ++ option ++ "' is required"
  | .surplusArgument argument => "unexpected argument '" ++ argument ++ "'"
  | .unknownCommand name => "unrecognized command '" ++ name ++ "'"
  | .missingCommand => "a command is required"

end UsageFault

/-- What keeps a command from being run. -/
inductive Stop where
  /-- Help on a command, or on the program, is asked for, with details or without. -/
  | help (command : Option String) (detailed : Bool)
  | version
  | fault (fault : UsageFault)
deriving DecidableEq, Repr

/-- Arguments sorted by options. -/
structure Arguments where
  flags : List String
  values : List (String × String)
  /-- The arguments that belong to no option. -/
  places : List String
deriving DecidableEq, Repr

namespace Arguments

/-- No arguments. -/
def empty : Arguments := ⟨[], [], []⟩

/-- The value of an option. -/
def value? (arguments : Arguments) (name : String) : Option String := arguments.values.lookup name

/-- A flag is set. -/
def has (arguments : Arguments) (name : String) : Bool := arguments.flags.contains name

/-- The arguments with one more flag. -/
def addFlag (arguments : Arguments) (name : String) : Except Stop Arguments :=
  if arguments.has name then .error (.fault (.repeated name))
  else .ok { arguments with flags := arguments.flags ++ [name] }

/-- The arguments with one more value. -/
def addValue (arguments : Arguments) (name : String) (kind : ValueKind) (value : String) :
    Except Stop Arguments :=
  if (arguments.value? name).isSome then .error (.fault (.repeated name))
  else if kind.accepts value then
    .ok { arguments with values := arguments.values ++ [(name, value)] }
  else .error (.fault (.badValue name value))

end Arguments

/-! ### Single arguments -/

/-- What a single argument is. -/
inductive Token where
  | separator
  | long (name : String) (value : Option String)
  | letters (cs : List Char)
  | place (text : String)
deriving DecidableEq, Repr

/-- A text before and behind the first equals sign. -/
def splitAtEquals (cs : List Char) : List Char × Option (List Char) :=
  match cs.dropWhile (· != '=') with
  | [] => (cs, none)
  | _ :: value => (cs.takeWhile (· != '='), some value)

/-- The kind of an argument. A single hyphen is no option. -/
def Token.ofText (text : String) : Token :=
  match text.toList with
  | ['-', '-'] => .separator
  | '-' :: '-' :: cs =>
    let (name, value) := splitAtEquals cs
    .long (String.ofList name) (value.map String.ofList)
  | '-' :: c :: cs => .letters (c :: cs)
  | _ => .place text

/-- An argument can be the value of the option before it. -/
def isValue (text : String) : Bool :=
  match Token.ofText text with
  | .place _ => true
  | _ => false

namespace Grammar

/-- The arguments with a flag, or the stop that a flag asks for. Help that is asked for by the name
of the flag has details. -/
def takeFlag (g : Grammar) (arguments : Arguments) (name : String) (named : Bool) :
    Except Stop Arguments :=
  if name = "help" then .error (.help g.command named)
  else if name = "version" then .error .version
  else arguments.addFlag name

/-- The arguments with the flags of some letters. -/
def takeLetters (g : Grammar) (arguments : Arguments) : List Char → Except Stop Arguments
  | [] => .ok arguments
  | c :: cs => do
    match g.flags.find? fun flag => flag.2 == some c with
    | none => .error (.fault (.unknownOption (String.ofList ['-', c])))
    | some (name, _) => g.takeLetters (← g.takeFlag arguments name false) cs

/-- The arguments with one more that belongs to no option. -/
def takePlace (g : Grammar) (arguments : Arguments) (value : String) : Except Stop Arguments :=
  match g.places[arguments.places.length]? with
  | none => .error (.fault (.surplusArgument value))
  | some (name, kind) =>
    if kind.accepts value then .ok { arguments with places := arguments.places ++ [value] }
    else .error (.fault (.badValue name value))

/-- The name is that of a flag. -/
def isFlag (g : Grammar) (name : String) : Bool := g.flags.any fun flag => flag.1 == name

/-- Arguments sorted, and those at which reading ends. -/
def readFrom (g : Grammar) (arguments : Arguments) :
    List String → Except Stop (Arguments × List String)
  | [] => .ok (arguments, [])
  | token :: rest =>
    match Token.ofText token with
    | .separator => do return (← rest.foldlM g.takePlace arguments, [])
    | .place value =>
      if g.stopsAtPlace then .ok (arguments, token :: rest)
      else do g.readFrom (← g.takePlace arguments value) rest
    | .letters cs => do g.readFrom (← g.takeLetters arguments cs) rest
    | .long name value =>
      if g.isFlag name then
        match value with
        | some _ => .error (.fault (.surplusValue name))
        | none => do g.readFrom (← g.takeFlag arguments name true) rest
      else
        match g.values.lookup name, value, rest with
        | none, _, _ => .error (.fault (.unknownOption token))
        | some kind, some value, rest => do
          g.readFrom (← arguments.addValue name kind value) rest
        | some _, none, [] => .error (.fault (.missingValue name))
        | some kind, none, value :: rest => do
          if isValue value then g.readFrom (← arguments.addValue name kind value) rest
          else .error (.fault (.missingValue name))

/-- Arguments sorted from the first on. -/
def read (g : Grammar) (tokens : List String) : Except Stop (Arguments × List String) :=
  g.readFrom .empty tokens

end Grammar

end Questionnaire.CommandLine
