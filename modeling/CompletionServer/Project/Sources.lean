import CompletionServer.Files.PathText

/-!
# Source files of a project

Each pattern names a file or, with wildcards, several files in ascending order. The patterns keep
their order, and a file that several of them name stands where it came first. The patterns of a
document are texts of code points.
-/

namespace CompletionServer.Project

open Files

/-- The texts that a pattern leads to: its matches if it has wildcards, else its one path without
links. -/
def patternMatches (system : System) (root : Path) (pattern : String) :
    Except Fault (List String) :=
  if Glob.hasMagic pattern then do
    let path ← system.expandHome (Path.ofString pattern)
    system.glob (root.join path)
  else do
    let path ← system.resolveIn root pattern
    return [toString path]

/-- A text's file without links, none if it leads to no file. -/
def sourceFile? (system : System) (text : String) : Except Fault (Option String) := do
  let path := Path.ofString text
  if ← system.isFile path then
    let resolved ← system.resolve path
    return some (toString resolved)
  else return none

/-- Files added behind those known, each once. -/
def addNew (known found : List String) : List String :=
  found.foldl (fun files file => if files.contains file then files else files ++ [file]) known

/-- The files that a pattern leads to. -/
def patternFiles (system : System) (root : Path) (pattern : String) :
    Except Fault (List String) := do
  let texts ← patternMatches system root pattern
  return (← texts.mapM (sourceFile? system)).filterMap id

/-- The files that patterns lead to, those known given. -/
def expandFrom {α : Type} (filesOf : α → Except Fault (List String)) : (known : List String) →
    List α → Except Fault (List String)
  | known, [] => .ok known
  | known, pattern :: rest => do
    let found ← filesOf pattern
    expandFrom filesOf (addNew known found) rest

/-- The source files that patterns lead to, seen from a directory. -/
def expandSources (system : System) (root : Path) (patterns : List String) :
    Except Fault (List String) :=
  expandFrom (patternFiles system root) [] patterns

/-- The files that a pattern of a document leads to. -/
def textFiles (system : System) (root : Path) (pattern : Text.Points) :
    Except Fault (List String) :=
  system.named root pattern (patternFiles system root pattern.pathText)

/-- The source files that the patterns of a document lead to, seen from a directory. -/
def expandTexts (system : System) (root : Path) (patterns : List Text.Points) :
    Except Fault (List String) :=
  expandFrom (textFiles system root) [] patterns

end CompletionServer.Project
