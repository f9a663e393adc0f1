import CompletionServer.Json.Basic
import CompletionServer.Number.Literal
import CompletionServer.Text.Utf8

/-!
# Faults

Failures that no part of the service expects. A fault has a kind, arguments and a message, and is
described by kind and arguments when it is kept for a later answer.
-/

namespace CompletionServer

/-- An argument of a fault: a single value, or a collection given from outside. -/
inductive Argument
  | scalar (value : Scalar)
  | collection (value : Json)

namespace Argument

/-- The argument that a JSON value makes. -/
def ofJson (value : Json) : Argument :=
  match value.scalar? with
  | some single => .scalar single
  | none => .collection value

/-- The form inside a collection. -/
def shown : Argument → String
  | .scalar value => value.shown
  | .collection value => value.shown

/-- The text of an argument that stands alone. -/
def plain : Argument → String
  | .scalar value => value.plain
  | .collection value => value.plain

/-- Whether an argument counts as given. -/
def isGiven : Argument → Bool
  | .scalar value => value.isGiven
  | .collection value => value.isGiven

/-- The number that a whole number or a truth value stands for. -/
def integer? : Argument → Option Int
  | .scalar (.integer value) => some value
  | .scalar (.bool value) => some (if value then 1 else 0)
  | _ => none

/-- Whether the argument is a number or a truth value. -/
def isNumber : Argument → Bool
  | .scalar (.integer _) | .scalar (.bool _) | .scalar (.float _) => true
  | _ => false

/-- The argument unless it is nothing. -/
def given? : Argument → Option Argument
  | .scalar .null => none
  | argument => some argument

end Argument

/-- What the operating system reported: usually a code, a reason and the path concerned, perhaps
with a second path two places further. -/
structure SystemError where
  arguments : List Argument

namespace SystemError

/-- A code, its reason and the path concerned. -/
def atPath (code : Nat) (reason path : String) : SystemError :=
  ⟨[.scalar (.integer code), .scalar (.text reason), .scalar (.text path)]⟩

/-- Whether the arguments are a code and a reason, with at most three more. -/
def isCoded (error : SystemError) : Bool :=
  2 ≤ error.arguments.length && error.arguments.length ≤ 5

/-- The code, if one was given as a number. -/
def code? (error : SystemError) : Option Int :=
  if error.isCoded then error.arguments.head?.bind Argument.integer? else none

/-- The reason alone. -/
def reason? (error : SystemError) : Option Argument :=
  if error.isCoded then error.arguments[1]? else none

/-- The kind of error that a code belongs to. -/
def kindOfCode : Int → String
  | 1 | 13 => "PermissionError"
  | 2 => "FileNotFoundError"
  | 3 => "ProcessLookupError"
  | 4 => "InterruptedError"
  | 10 => "ChildProcessError"
  | 11 | 114 | 115 => "BlockingIOError"
  | 17 => "FileExistsError"
  | 20 => "NotADirectoryError"
  | 21 => "IsADirectoryError"
  | 32 | 108 => "BrokenPipeError"
  | 103 => "ConnectionAbortedError"
  | 104 => "ConnectionResetError"
  | 110 => "TimeoutError"
  | 111 => "ConnectionRefusedError"
  | _ => "OSError"

/-- The kind of a system error. -/
def kind (error : SystemError) : String :=
  (error.code?.map kindOfCode).getD "OSError"

/-- What stands in the place of the path. -/
def third? (error : SystemError) : Option Argument :=
  if error.isCoded then error.arguments[2]?.bind Argument.given? else none

/-- The number of characters that were written before the work would have had to wait. It stands in
the place of the path. -/
def written? (error : SystemError) : Option Argument :=
  if error.kind = "BlockingIOError" then error.third?.filter Argument.isNumber else none

/-- The path concerned. -/
def path? (error : SystemError) : Option Argument :=
  if error.written?.isSome then none else error.third?

/-- The second path concerned. -/
def secondPath? (error : SystemError) : Option Argument :=
  if error.path?.isSome then error.arguments[4]?.bind Argument.given? else none

/-- The arguments kept with the error: the paths stand apart from them. -/
def kept (error : SystemError) : List Argument :=
  if error.path?.isSome then error.arguments.take 2 else error.arguments

end SystemError

/-- The text of a list of arguments that stands alone. -/
def argumentsText : List Argument → String
  | [] => ""
  | [argument] => argument.plain
  | arguments => "(" ++ ", ".intercalate (arguments.map Argument.shown) ++ ")"

/-- The message of a system error. -/
def SystemError.message (error : SystemError) : String :=
  match error.isCoded, error.arguments with
  | true, code :: reason :: _ =>
    "[Errno " ++ code.plain ++ "] " ++ reason.plain ++
      ((error.path?.map fun path => ": " ++ path.shown).getD "") ++
      ((error.secondPath?.map fun path => " -> " ++ path.shown).getD "")
  | _, arguments => argumentsText arguments

/-- The reason alone if there is one, the message otherwise. -/
def SystemError.briefReason (error : SystemError) : String :=
  match error.reason? with
  | some reason => if reason.isGiven then reason.plain else error.message
  | none => error.message

/-- A failure that no part of the service expects. -/
inductive Fault
  /-- The operating system refused. -/
  | system (error : SystemError)
  /-- Bytes that are no text. -/
  | undecodable (bytes : List UInt8) (damage : Text.Utf8.Fault)
  /-- A text with halves of surrogate pairs, from one place to another, that have no encoding. -/
  | unencodable (text : Text.Points) (start stop : Nat)
  /-- A path names the home directory of an unknown user. -/
  | unknownHome
  /-- Symbolic links lead back to themselves. -/
  | linkLoop (path : String)
  /-- A path holds the character that ends paths. -/
  | nulInPath
  /-- A text is no whole number of the base. -/
  | integer (base : Nat) (text : Text.Points) (error : Number.IntegerError)
  /-- A text is no number. -/
  | float (text : Text.Points)
  /-- Fields name no date or moment. -/
  | calendar (error : Calendar.Error)
  /-- An escape names no character. -/
  | character (code : Nat)
  /-- A word marked as a truth value is none. -/
  | truthWord (word : Text.Points)
  /-- A text marked as a number is empty. -/
  | emptyNumber
  /-- A text marked as a moment is none. -/
  | notMoment
  /-- No project file was configured. -/
  | noProject
  /-- The project was not loaded yet. -/
  | notLoaded
  /-- The service was asked before the project manager existed. -/
  | noManager
  /-- The service was asked before it existed. -/
  | noService
  /-- Work was given to a pool of workers that is closed. -/
  | poolClosed
  /-- A list was to be cut into parts of no length. -/
  | emptyPart
  /-- A number is no status of a response. -/
  | unknownStatus (status : Int)
  /-- A number stands for no relation. -/
  | relation (text : String)
  /-- A whole number has too many digits to be written. -/
  | overlongInteger
  /-- A whole number is beyond all doubles. -/
  | beyondDouble
  /-- A number that is not finite was to be made whole. -/
  | notFinite (isNan : Bool)
  /-- A value of some kind was to be made a whole number. -/
  | notWhole (kind : String)
  /-- A value of some kind was to be made a number. -/
  | notReal (kind : String)
  /-- A number with a fraction part stands where a count has to. -/
  | fractionalCount
  /-- A count is too large. -/
  | countTooLarge
  /-- A collection stands where a moment has to. -/
  | collectionAsMoment
  /-- An error of some kind is stated without the named arguments. -/
  | missingArguments (kind : String) (names : List String)
  /-- An error of some kind is stated with more arguments than it has to have and may have. -/
  | excessArguments (kind : String) (required optional given : Nat)
  /-- Values are nested too deeply for some work. -/
  | tooDeep (work : String)
  /-- Raised from outside, with its kind and arguments. -/
  | raised (kind : String) (arguments : List Argument)

namespace Fault

/-- The wording of an overlong whole number. -/
def tooLongMessage (digits : Nat) : String :=
  s!"Exceeds the limit ({Number.digitLimit} digits) for integer string conversion: " ++
    s!"value has {digits} digits; use sys.set_int_max_str_digits() to increase the limit"

/-- A noun for a number of things. -/
def counted (noun : String) (count : Nat) : String :=
  if count = 1 then noun else noun ++ "s"

/-- Names in quotes, one after the other. -/
def listed (names : List String) : String :=
  match names.map Text.quoted with
  | [first, second] => first ++ " and " ++ second
  | quoted =>
    match quoted.reverse with
    | last :: second :: before =>
      ", ".intercalate (before.reverse ++ [second]) ++ ", and " ++ last
    | few => String.join few

/-- The wording of arguments that are missing. -/
def missingMessage (kind : String) (names : List String) : String :=
  kind ++ s!".__init__() missing {names.length} required positional " ++
    counted "argument" names.length ++ ": " ++ listed names

/-- The wording of arguments that are too many. The error itself counts as one of them. -/
def excessMessage (kind : String) (required optional given : Nat) : String :=
  let takes :=
    if optional = 0 then s!"{required + 1} positional " ++ counted "argument" (required + 1)
    else s!"from {required + 1} to {required + 1 + optional} positional arguments"
  kind ++ ".__init__() takes " ++ takes ++ s!" but {given + 1} were given"

/-- The kind of a fault. -/
def kind : Fault → String
  | .system error => error.kind
  | .undecodable _ _ => "UnicodeDecodeError"
  | .unencodable _ _ _ => "UnicodeEncodeError"
  | .unknownHome | .linkLoop _ | .noProject | .notLoaded | .noManager | .noService
  | .poolClosed => "RuntimeError"
  | .nulInPath | .integer _ _ _ | .float _ | .calendar _ | .emptyPart | .relation _
  | .unknownStatus _ | .overlongInteger | .countTooLarge => "ValueError"
  | .beyondDouble => "OverflowError"
  | .notFinite isNan => if isNan then "ValueError" else "OverflowError"
  | .notWhole _ | .notReal _ | .fractionalCount | .collectionAsMoment
  | .missingArguments _ _ | .excessArguments _ _ _ _ => "TypeError"
  | .tooDeep _ => "RecursionError"
  | .character code => if code < Nat.pow 2 31 then "ValueError" else "OverflowError"
  | .truthWord _ => "KeyError"
  | .emptyNumber => "IndexError"
  | .notMoment => "AttributeError"
  | .raised kind _ => kind

/-- The largest number of characters of a text that is no whole number, with its quotes, that a
message shows. -/
def shownLimit : Nat := 200

/-- Why halves of surrogate pairs have no encoding. -/
def halvesReason : String := "surrogates not allowed"

/-- The arguments of a fault that come from its cause alone. -/
def ownArguments : Fault → List Scalar
  | .undecodable bytes damage =>
    [.text "utf-8", .bytes bytes, .integer damage.start, .integer damage.stop,
      .text damage.kind.reason]
  | .unencodable text start stop =>
    [.text "utf-8", .text text, .integer start, .integer stop, .text halvesReason]
  | .unknownHome => [.text "Could not determine home directory."]
  | .linkLoop path => [.text ("Symlink loop from " ++ Text.quoted path)]
  | .nulInPath => [.text "embedded null byte"]
  | .integer base text .malformed =>
    [.text (s!"invalid literal for int() with base {base}: " ++
      String.ofList (text.quoted.toList.take shownLimit))]
  | .integer _ _ (.tooLong digits) => [.text (tooLongMessage digits)]
  | .float text => [.text ("could not convert string to float: " ++ text.quoted)]
  | .calendar error => [.text error.message]
  | .character code =>
    [.text (if code < Nat.pow 2 31 then "chr() arg not in range(0x110000)"
      else "Python int too large to convert to C int")]
  | .truthWord word => [.text word]
  | .emptyNumber => [.text "string index out of range"]
  | .notMoment => [.text "'NoneType' object has no attribute 'groupdict'"]
  | .noProject =>
    [.text "No project file configured (use --project or SKDAEMON_PROJECT_FILE)"]
  | .notLoaded => [.text "Project state has not been loaded"]
  | .noManager => [.text "Project manager not initialized"]
  | .noService => [.text "Completion service not initialized"]
  | .poolClosed => [.text "cannot schedule new futures after shutdown"]
  | .emptyPart => [.text "range() arg 3 must not be zero"]
  | .unknownStatus status => [.text s!"{status} is not a valid HTTPStatus"]
  | .relation text => [.text (text ++ " is not a valid RelationType")]
  | .overlongInteger =>
    [.text (s!"Exceeds the limit ({Number.digitLimit} digits) for integer string conversion; " ++
      "use sys.set_int_max_str_digits() to increase the limit")]
  | .beyondDouble => [.text "int too large to convert to float"]
  | .notFinite isNan =>
    [.text ("cannot convert float " ++ (if isNan then "NaN" else "infinity") ++ " to integer")]
  | .notWhole kind =>
    [.text ("int() argument must be a string, a bytes-like object or a real number, not " ++
      Text.quoted kind)]
  | .notReal kind =>
    [.text ("float() argument must be a string or a real number, not " ++ Text.quoted kind)]
  | .fractionalCount => [.text "'float' object cannot be interpreted as an integer"]
  | .countTooLarge => [.text "cannot fit 'int' into an index-sized integer"]
  | .collectionAsMoment => [.text "expected string or bytes-like object, got 'list'"]
  | .missingArguments kind names => [.text (missingMessage kind names)]
  | .excessArguments kind required optional given =>
    [.text (excessMessage kind required optional given)]
  | .tooDeep work => [.text ("maximum recursion depth exceeded" ++ work)]
  | .system _ | .raised _ _ => []

/-- The arguments of a fault. -/
def arguments : Fault → List Argument
  | .system error => error.kept
  | .raised _ arguments => arguments
  | fault => fault.ownArguments.map .scalar

/-- The message of a fault. A missing key is shown in quotes. -/
def message (fault : Fault) : String :=
  match fault with
  | .system error => error.message
  | .undecodable bytes damage =>
    if damage.stop = damage.start + 1 then
      let byte := (bytes.getD damage.start 0).toNat
      "'utf-8' codec can't decode byte 0x" ++ String.ofList (Text.hexDigits 2 byte) ++
        s!" in position {damage.start}: " ++ damage.kind.reason
    else
      s!"'utf-8' codec can't decode bytes in position {damage.start}-{damage.stop - 1}: " ++
        damage.kind.reason
  | .unencodable text start stop =>
    if stop = start + 1 then
      "'utf-8' codec can't encode character '" ++
        String.ofList (Text.numberEscape (text.codes.getD start 0)) ++
        s!"' in position {start}: " ++ halvesReason
    else
      s!"'utf-8' codec can't encode characters in position {start}-{stop - 1}: " ++ halvesReason
  | other =>
    match other.kind, other.arguments with
    | "KeyError", [argument] => argument.shown
    | _, arguments => argumentsText arguments

/-- Kind and arguments together. -/
def described (fault : Fault) : String :=
  fault.kind ++ "(" ++ ", ".intercalate (fault.arguments.map Argument.shown) ++ ")"

/-- The largest count, in either direction. -/
def countLimit : Int := Int.pow 2 63

/-- What comes of an error that the operating system is to report with the given arguments. A number
of characters written among them has to be a count. -/
def ofSystem (arguments : List Argument) : Fault :=
  let error : SystemError := ⟨arguments⟩
  match error.written? with
  | none => .system error
  | some written =>
    match written.integer? with
    | none => .fractionalCount
    | some count =>
      if count < -countLimit || countLimit ≤ count then .countTooLarge else .system error

/-- What comes of an error of some kind that is raised from outside. -/
def ofKind (kind : String) (arguments : List Argument) : Fault :=
  if kind = "OSError" then ofSystem arguments else .raised kind arguments

end Fault

end CompletionServer
