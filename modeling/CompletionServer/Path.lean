/-!
# Paths

A path is a root and the names below it. Repeated slashes and single dots carry no meaning and are
dropped; two dots are kept, because a link may stand before them.
-/

namespace CompletionServer

/-- A path: its root, empty for a relative path, and the names below it. -/
structure Path where
  root : String
  parts : List String
  deriving DecidableEq, Repr

namespace Path

/-- Parts of a text between slashes. -/
def slashParts (text : String) : List String :=
  (text.toList.splitOn '/').map String.ofList

/-- The root of a text: exactly two slashes in front are kept as two. -/
def rootOf (text : String) : String :=
  match text.toList with
  | '/' :: '/' :: '/' :: _ => "/"
  | '/' :: '/' :: _ => "//"
  | '/' :: _ => "/"
  | _ => ""

/-- The path that a text names. -/
def ofString (text : String) : Path :=
  ⟨rootOf text, (slashParts text).filter fun part => part ≠ "" && part ≠ "."⟩

/-- The text of a path, a single dot when it has neither root nor names. -/
protected def toString (path : Path) : String :=
  if path.root = "" && path.parts.isEmpty then "."
  else path.root ++ "/".intercalate path.parts

/-- Paths are shown as they are written. -/
instance : ToString Path := ⟨Path.toString⟩

/-- Whether the path begins at a root. -/
def isAbsolute (path : Path) : Bool :=
  path.root ≠ ""

/-- A path taken relative to another unless it is absolute. -/
def join (base path : Path) : Path :=
  if path.isAbsolute then path else ⟨base.root, base.parts ++ path.parts⟩

/-- The path without its last name; a path without names is its own parent. -/
def parent (path : Path) : Path :=
  ⟨path.root, path.parts.dropLast⟩

/-- The absolute path of names below the root. -/
def absolute (parts : List String) : Path := ⟨"/", parts⟩

end Path

end CompletionServer
