import CompletionServer.Files.System
import CompletionServer.Glob.Pattern

/-!
# Paths that match a pattern

A pattern is matched name by name along the tree. Names that begin with a dot are matched only by
patterns that do. Two stars alone stand for any number of directories, links to directories
included.
-/

namespace CompletionServer.Files.System

open Glob

/-- Whether a name or pattern begins with a dot. -/
def isHidden (name : String) : Bool :=
  name.startsWith "."

/-- A name put behind a directory's text. -/
def joinText (directory name : String) : String :=
  if directory.endsWith "/" then directory ++ name else directory ++ "/" ++ name

/-- The names in a directory, only those that lead to directories if asked. -/
def candidates (system : System) (directory : String) (directoriesOnly : Bool) :
    Except Fault (List String) := do
  let names ← system.list directory
  return names.filter fun name =>
    !directoriesOnly || system.isDirectory (joinText directory name)

/-- Paths below a directory, relative to it, to a bounded depth. -/
def below (system : System) (directoriesOnly : Bool) : (depth : Nat) → (directory : String) →
    Except Fault (List String)
  | 0, _ => .ok []
  | depth + 1, directory => do
    let names ← system.candidates directory directoriesOnly
    let groups ← (names.filter (!isHidden ·)).mapM fun name => do
      let further ← system.below directoriesOnly depth (joinText directory name)
      return name :: further.map (joinText name)
    return groups.flatten

/-- A bound on the depth of paths: between two of the links that one path may lead through lie at
most as many names as the tree has entries. -/
def depthBound (system : System) : Nat :=
  (linkLimit + 1) * (system.tree.entries.length + 1)

/-- The matches of one name pattern in a directory; two stars match the place itself too, whatever
is there. -/
def matchesIn (system : System) (directory pattern : String) (directoriesOnly : Bool) :
    Except Fault (List String) :=
  if pattern = "**" then do
    let further ← system.below directoriesOnly system.depthBound directory
    return "" :: further
  else if hasMagic pattern then do
    let names ← system.candidates directory directoriesOnly
    let visible := names.filter fun name => isHidden pattern || !isHidden name
    return visible.filter (matchesName pattern)
  else .ok (if system.hasEntry (joinText directory pattern) then [pattern] else [])

/-- The paths that match the names of a pattern, the last name first, below a root. -/
def matchesBelow (system : System) (root : String) : (directoriesOnly : Bool) →
    (reversed : List String) → Except Fault (List String)
  | _, [] => .ok [root]
  | directoriesOnly, name :: outer => do
    let outerText := root ++ "/".intercalate outer.reverse
    let directories ←
      if hasMagic outerText then system.matchesBelow root true outer else pure [outerText]
    let groups ← directories.mapM fun directory => do
      return (← system.matchesIn directory name directoriesOnly).map (joinText directory)
    return groups.flatten

/-- The paths that match an absolute pattern, in ascending order. -/
def glob (system : System) (pattern : Path) : Except Fault (List String) := do
  let found ← system.matchesBelow pattern.root false pattern.parts.reverse
  return found.mergeSort fun left right => decide (left ≤ right)

end CompletionServer.Files.System
