import CompletionServer.Text.Quoted

/-!
# Flags and usage

The command line has a program level, which knows one command, and the level of that command. Each
level has its flags, its usage line and its help.
-/

namespace CompletionServer.CommandLine

/-- A flag. -/
inductive Flag
  | help
  | project
  | host
  | port
  | logLevel
  deriving DecidableEq, Repr

namespace Flag

/-- The ways to write a flag. -/
def spellings : Flag → List String
  | .help => ["-h", "--help"]
  | .project => ["--project"]
  | .host => ["--host"]
  | .port => ["--port"]
  | .logLevel => ["--log-level"]

/-- How a flag is called in messages. -/
def title (flag : Flag) : String :=
  "/".intercalate flag.spellings

end Flag

/-- Whose arguments are read. -/
inductive Level
  | program
  | start
  deriving DecidableEq, Repr

namespace Level

/-- The flags of a level. -/
def flags : Level → List Flag
  | .program => [.help]
  | .start => [.help, .project, .host, .port, .logLevel]

/-- Every spelling of a level's flags, in order. -/
def spelled (level : Level) : List (String × Flag) :=
  level.flags.flatMap fun flag => flag.spellings.map (·, flag)

/-- The flag that a spelling stands for. -/
def flag? (level : Level) (spelling : String) : Option Flag :=
  (level.spelled.find? (·.1 == spelling)).map (·.2)

/-- The words that lead to a level. -/
def name : Level → String
  | .program => "skdaemon"
  | .start => "skdaemon start"

/-- The usage lines of a level. -/
def usage : Level → String
  | .program => "usage: skdaemon [-h] \x7bstart\x7d ...\n"
  | .start =>
    "usage: skdaemon start [-h] --project PROJECT [--host HOST] [--port PORT]\n" ++
    "                      [--log-level LOG_LEVEL]\n"

/-- The help of a level. -/
def help : Level → String
  | .program =>
    usage .program ++
    "\nCompletion daemon for text editors.\n" ++
    "\npositional arguments:\n" ++
    "  \x7bstart\x7d\n" ++
    "    start     Start the completion server\n" ++
    "\noptions:\n" ++
    "  -h, --help  show this help message and exit\n"
  | .start =>
    usage .start ++
    "\noptions:\n" ++
    "  -h, --help            show this help message and exit\n" ++
    "  --project PROJECT     Path to the project definition file\n" ++
    "  --host HOST\n" ++
    "  --port PORT\n" ++
    "  --log-level LOG_LEVEL\n"

end Level

/-- The one command. -/
def commandName : String := "start"

/-- What is wrong with a command line. -/
inductive Misuse
  /-- The beginning of a flag fits several. -/
  | ambiguous (text : String) (fitting : List String)
  /-- A flag lacks its value. -/
  | missingValue (flag : Flag)
  /-- A flag that takes no value was given one. -/
  | needlessValue (flag : Flag) (value : String)
  /-- A value is no whole number. -/
  | notInteger (flag : Flag) (value : String)
  | unknownCommand (name : String)
  /-- Something that is required was not given. -/
  | missing (name : String)
  /-- Arguments were left over. -/
  | unrecognized (arguments : List String)
  deriving DecidableEq, Repr

namespace Misuse

/-- The wording of a misuse. -/
def message : Misuse → String
  | .ambiguous text fitting =>
    s!"ambiguous option: {text} could match " ++ ", ".intercalate fitting
  | .missingValue flag => "argument " ++ flag.title ++ ": expected one argument"
  | .needlessValue flag value =>
    "argument " ++ flag.title ++ ": ignored explicit argument " ++ Text.quoted value
  | .notInteger flag value =>
    "argument " ++ flag.title ++ ": invalid int value: " ++ Text.quoted value
  | .unknownCommand name =>
    "argument command: invalid choice: " ++ Text.quoted name ++
      " (choose from " ++ Text.quoted commandName ++ ")"
  | .missing name => s!"the following arguments are required: {name}"
  | .unrecognized arguments => "unrecognized arguments: " ++ " ".intercalate arguments

/-- What is printed about a misuse at a level. -/
def report (level : Level) (misuse : Misuse) : String :=
  level.usage ++ level.name ++ ": error: " ++ misuse.message ++ "\n"

end Misuse

end CompletionServer.CommandLine
