import CompletionServer.CommandLine
import CompletionServer.Daemon
import CompletionServer.Files.Change

/-!
# The program

The command line is read against the environment and the disk. A server that it asks for answers
requests from standard input: a line with method and path, header lines, and an empty line. The
introspection tool is not started from here, so that only what needs no tool is answered.
-/

namespace CompletionServer.Program

/-- The variables of the environment that settings are read from. -/
def environment : IO Settings.Environment :=
  Settings.variableNames.filterMapM fun name => return (← IO.getEnv name).map (name, ·)

/-- A file system with nothing in it but the working directory. -/
def bareSystem : IO Files.System := do
  let here := (Path.ofString (← IO.currentDir).toString).parts
  let home := (← IO.getEnv "HOME").getD "/"
  return ⟨Files.Tree.empty.makeDirectory here, here, home, []⟩

/-- An entry put where a path on the disk leads, with a link from the path if it lies elsewhere. -/
def putReal (system : Files.System) (path : String) (entry : Files.Entry) : IO Files.System := do
  let real := (← IO.FS.realPath path).toString
  let system := system.put (Path.ofString real) entry
  match system.resolve (Path.ofString path) with
  | .ok found =>
    return if toString found = real then system
      else system.put (Path.ofString path) (.link real)
  | .error _ => return system

/-- The file at a path on the disk taken into the file system, if it can be read. -/
def takeFile (system : Files.System) (path : String) : IO Files.System := do
  try putReal system path (.file (← IO.FS.readBinFile path).toList)
  catch _ => return system

/-- The names below a directory on the disk taken into the file system, without what the files
hold. -/
partial def takeNames (system : Files.System) (directory : String) : IO Files.System := do
  try
    let mut system := system
    for entry in ← (← IO.FS.realPath directory).readDir do
      let path := entry.path.toString
      match (← entry.path.metadata).type with
      | .dir => system ← takeNames (← putReal system path .directory) path
      | .file => system ← putReal system path (.file [])
      | _ => pure ()
    return system
  catch _ => return system

/-- The lines up to the next empty one. -/
partial def readBlock (input : IO.FS.Stream) : IO (List String) := do
  let line := Text.trim (← input.getLine)
  if line = "" then return [] else return line :: (← readBlock input)

/-- The request that a block of lines makes. -/
def requestOf (server line : String) (headers : List String) : Http.Request :=
  let parts := (line.toList.splitOn ' ').map String.ofList
  let target := (parts.getD 1 "").toList
  { method := parts.headD ""
    path := String.ofList (target.takeWhile (· ≠ '?'))
    query := String.ofList ((target.dropWhile (· ≠ '?')).drop 1)
    headers := headers.map fun header =>
      .ofText (Text.trim (String.ofList (header.toList.takeWhile (· ≠ ':'))))
        (Text.trim (String.ofList ((header.toList.dropWhile (· ≠ ':')).drop 1)))
    server }

/-- The text of a response. -/
def responseText (response : Http.Response) : String :=
  s!"HTTP/1.1 {response.status}\r\n" ++
    ((response.contentType.map fun name => s!"content-type: {name}\r\n").getD "") ++
    ((response.location.map fun address => s!"location: {address}\r\n").getD "") ++
    s!"content-length: {response.body.utf8ByteSize}\r\n\r\n" ++ response.body

/-- Requests answered until the input ends. -/
partial def serveInput (input output : IO.FS.Stream) (surroundings : Service.Surroundings)
    (daemon : Daemon) : IO Unit := do
  match ← readBlock input with
  | [] => return
  | line :: headers =>
    let server := s!"{daemon.settings.host}:{daemon.settings.port}"
    let request := requestOf server line headers
    let system ← takeFile surroundings.system ((request.header? "x-path").getD "")
    let (reply, surroundings, daemon) := daemon.serve { surroundings with system } request
    output.putStr (responseText reply.response)
    output.flush
    serveInput input output surroundings daemon

/-- The exit status of a server that cannot start. -/
def startFailureStatus : UInt32 := 3

/-- The message of a start that failed. -/
def startFailureMessage : Project.LoadFailure → String
  | .refused error => error.message
  | .fault fault => fault.message

/-- How the introspection tool answers here. -/
def absentTool : Introspection.Behaviour :=
  .refuses (.ofSystem [.scalar (.integer 2), .scalar (.text "No such file or directory")])

/-- A server with settings, among the files of the disk. -/
def serve (settings : Settings) (system : Files.System) : IO UInt32 := do
  let directory := (settings.projectFile.map fun file => toString file.parent).getD "."
  let system ← takeNames system directory
  let system ← takeFile system ((settings.projectFile.map toString).getD "")
  match Daemon.start settings system with
  | .error failure =>
    IO.eprintln (startFailureMessage failure)
    return startFailureStatus
  | .ok daemon =>
    serveInput (← IO.getStdin) (← IO.getStdout) ⟨system, [absentTool], []⟩ daemon
    return 0

/-- What a command line comes to is carried out. -/
def carryOut (system : Files.System) : CommandLine.Conclusion → IO UInt32
  | .helped text => do
    (← IO.getStdout).putStr text
    return 0
  | .misused report => do
    (← IO.getStderr).putStr report
    return CommandLine.failureStatus.toUInt32
  | .notFound file => do
    (← IO.getStderr).putStr (CommandLine.notFoundReport file)
    return CommandLine.failureStatus.toUInt32
  | .serve settings _ => serve settings system

/-- The program with its arguments. -/
def run (arguments : List String) : IO UInt32 := do
  let bare ← bareSystem
  let project := (CommandLine.read arguments).toOption.bind (·.project)
  let expanded := project.bind fun text => (bare.expandHome (Path.ofString text)).toOption
  let system ← takeFile bare ((expanded.map toString).getD "")
  let given ← environment
  let conclusion := do
    CommandLine.run (← Settings.ofEnvironment system given) system arguments
  match conclusion with
  | .ok conclusion => carryOut system conclusion
  | .error fault =>
    IO.eprintln fault.described
    return 1

end CompletionServer.Program

/-- The entry of the program. -/
def main (arguments : List String) : IO UInt32 :=
  CompletionServer.Program.run arguments
