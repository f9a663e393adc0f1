import CompletionServer.CommandLine.Word
import CompletionServer.Settings

/-!
# The command line

A command line asks for help, is misused, or asks to start the server for a project. A start needs a
project file that is there; what is not said on the command line is taken from the settings.
-/

namespace CompletionServer.CommandLine

/-- How reading a command line ends early. -/
inductive Stop
  | help (level : Level)
  | misuse (level : Level) (misuse : Misuse)
  deriving DecidableEq, Repr

/-- What was said about a start so far, and the arguments that belong to nothing. -/
structure Said where
  project : Option String := none
  host : Option String := none
  port : Option Int := none
  logLevel : Option String := none
  leftOver : List String := []
  deriving DecidableEq, Repr

namespace Said

/-- An argument that belongs to nothing. -/
def leave (said : Said) (text : String) : Said :=
  { said with leftOver := said.leftOver ++ [text] }

/-- A flag is given its value. The last value of a flag counts. -/
def give (said : Said) (value : String) : Flag → Except Stop Said
  | .help => .error (.misuse .start (.needlessValue .help value))
  | .project => .ok { said with project := some value }
  | .host => .ok { said with host := some value }
  | .logLevel => .ok { said with logLevel := some value }
  | .port =>
    match Number.integer value with
    | .ok port => .ok { said with port := some port }
    | .error _ => .error (.misuse .start (.notInteger .port value))

end Said

/-- A call for help at a level, with what the argument carries besides. -/
def helpStop (level : Level) (found : Found) : Stop :=
  match found.carried with
  | none => .help level
  | some value =>
    let outcome :=
      if found.spelling.startsWith "--" then .error (.needlessValue found.flag value)
      else standsAlone level found.flag value.toList
    match outcome with
    | .ok () => .help level
    | .error misuse => .misuse level misuse

/-- The arguments of a start, one after the other. -/
def readStart (said : Said) : List (String × Word) → Except Stop Said
  | [] => .ok said
  | (text, .value) :: rest | (text, .dashes) :: rest | (text, .unknown) :: rest =>
    readStart (said.leave text) rest
  | (_, .flag found) :: rest =>
    if found.flag = .help then .error (helpStop .start found)
    else
      match found.carried, rest with
      | some value, rest => do readStart (← said.give value found.flag) rest
      | none, (value, .value) :: rest => do readStart (← said.give value found.flag) rest
      | none, _ => .error (.misuse .start (.missingValue found.flag))

/-- The words of a level, if they can be told. -/
def wordsOf (level : Level) (arguments : List String) : Except Stop (List (String × Word)) :=
  match words level arguments with
  | .ok words => .ok words
  | .error misuse => .error (.misuse level misuse)

/-- What was said by the arguments after a command's name. -/
def readCommand (name : String) (arguments : List String) : Except Stop Said :=
  if name ≠ commandName then .error (.misuse .program (.unknownCommand name))
  else do
    let said ← readStart {} (← wordsOf .start arguments)
    if said.project.isNone then
      throw (.misuse .start (.missing ("/".intercalate Flag.project.spellings)))
    return said

/-- The arguments before a command's name, and then the command. -/
def readProgram (leftOver : List String) : List (String × Word) → Except Stop Said
  | [] => .error (.misuse .program (.missing "command"))
  | (name, .value) :: rest => do
    let said ← readCommand name (rest.map (·.1))
    return { said with leftOver := leftOver ++ said.leftOver }
  | (_, .dashes) :: [] => .error (.misuse .program (.missing "command"))
  | (text, .dashes) :: _ => .error (.misuse .program (.unknownCommand text))
  | (text, .unknown) :: rest => readProgram (leftOver ++ [text]) rest
  | (_, .flag found) :: _ => .error (helpStop .program found)

/-- What a command line says. -/
def read (arguments : List String) : Except Stop Said := do
  let said ← readProgram [] (← wordsOf .program arguments)
  if !said.leftOver.isEmpty then throw (.misuse .program (.unrecognized said.leftOver))
  return said

/-- What a command line comes to. -/
inductive Conclusion
  /-- Help is printed. -/
  | helped (text : String)
  /-- A misuse is reported. -/
  | misused (report : String)
  /-- The project file is not there. -/
  | notFound (file : Path)
  /-- The server is started with settings and a log level. -/
  | serve (settings : Settings) (logLevel : String)

/-- What is reported when a project file is not there. -/
def notFoundReport (file : Path) : String :=
  s!"Project file not found: {file}\n"

/-- The exit status of a misuse and of a missing project file. -/
def failureStatus : Nat := 2

/-- What a start comes to among files. -/
def conclude (settings : Settings) (system : Files.System) (said : Said) :
    Except Fault Conclusion := do
  let path ← system.expandHome (Path.ofString (said.project.getD ""))
  let file ← system.resolve path
  if ← system.isFile file then
    return .serve
      { settings with
        projectFile := some file
        host := said.host.getD settings.host
        port := said.port.getD settings.port }
      (said.logLevel.getD (Text.lowerCase settings.logLevel))
  else return .notFound file

/-- What a command line comes to among files. -/
def run (settings : Settings) (system : Files.System) (arguments : List String) :
    Except Fault Conclusion :=
  match read arguments with
  | .error (.help level) => .ok (.helped level.help)
  | .error (.misuse level misuse) => .ok (.misused (misuse.report level))
  | .ok said => conclude settings system said

end CompletionServer.CommandLine
