import CompletionServer.Fault
import CompletionServer.Path

/-!
# File trees

A tree is a finite map from places, which are lists of names from the root, to entries. The root is
a directory. A file that cannot be read carries the error that reading it gives, and a directory
that cannot be entered the error that looking for anything below it gives.
-/

namespace CompletionServer.Files

/-- Names from the root down. -/
abbrev Place := List String

/-- The errors by which nothing is found: there is no such file, the descriptor is bad, there is no
such directory, there are too many links. -/
def absentCodes : List Nat := [2, 9, 20, 40]

/-- Why the system does not let a directory be entered, such as for want of permission. The error is
none of those by which nothing is found. -/
structure Refusal where
  code : Nat
  reason : String
  isPresent : code ∉ absentCodes := by decide
  deriving DecidableEq, Repr

/-- The refusal of a directory that may not be searched. -/
def Refusal.permission : Refusal := ⟨13, "Permission denied", by decide⟩

/-- What is at a place. -/
inductive Entry
  | directory
  | file (bytes : List UInt8)
  /-- A regular file that cannot be read. -/
  | unreadable (fault : Fault)
  | link (target : String)
  /-- A directory that cannot be entered. Nothing in it is seen. -/
  | barred (refusal : Refusal)

/-- Whether an entry is a regular file. -/
def Entry.isFile : Entry → Bool
  | .file _ => true
  | .unreadable _ => true
  | _ => false

/-- Whether an entry is a directory that can be entered. -/
def Entry.isDirectory : Entry → Bool
  | .directory => true
  | _ => false

/-- A file tree. -/
structure Tree where
  entries : List (Place × Entry)

namespace Tree

/-- The tree with nothing below its root. -/
def empty : Tree := ⟨[]⟩

/-- The entry at a place. -/
def get? (tree : Tree) (place : Place) : Option Entry :=
  if place = [] then some .directory
  else (tree.entries.find? fun entry => entry.1 == place).map (·.2)

/-- The names of the entries directly below a place. -/
def names (tree : Tree) (place : Place) : List String :=
  tree.entries.filterMap fun entry =>
    if entry.1.dropLast == place && !entry.1.isEmpty then entry.1.getLast? else none

/-- An entry put at a place. -/
def set (tree : Tree) (place : Place) (entry : Entry) : Tree :=
  if tree.entries.any fun known => known.1 == place then
    ⟨tree.entries.map fun known => if known.1 == place then (place, entry) else known⟩
  else ⟨tree.entries ++ [(place, entry)]⟩

/-- A directory at a place and at every place above it, where nothing is yet. -/
def makeDirectory (tree : Tree) (place : Place) : Tree :=
  (List.range (place.length + 1)).foldl
    (fun tree depth =>
      let above := place.take depth
      if (tree.get? above).isSome then tree else tree.set above .directory)
    tree

/-- A place and everything below it removed. -/
def remove (tree : Tree) (place : Place) : Tree :=
  ⟨tree.entries.filter fun entry => !place.isPrefixOf entry.1⟩

/-- The root is a directory of every tree. -/
@[simp] theorem get?_root (tree : Tree) : tree.get? [] = some .directory := rfl

end Tree

end CompletionServer.Files
