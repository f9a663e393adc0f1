import CompletionServer.Files.Tree

/-!
# The file system

A file tree seen through paths. A path is walked name by name; links are followed, forty of them at
most for one path, and a directory that cannot be entered stops the walk. Resolving a path replaces
its links as far as they can be seen and never needs the path to exist.
-/

namespace CompletionServer.Files

/-- Why a path cannot be walked. -/
inductive Obstacle
  | missing
  | notDirectory
  | isDirectory
  | nameTooLong
  | tooManyLinks
  /-- A directory on the way cannot be entered. -/
  | refused (refusal : Refusal)
  deriving DecidableEq, Repr

namespace Obstacle

/-- The system's number for an obstacle. -/
def code : Obstacle → Nat
  | .missing => 2
  | .notDirectory => 20
  | .isDirectory => 21
  | .nameTooLong => 36
  | .tooManyLinks => 40
  | .refused refusal => refusal.code

/-- The system's wording for an obstacle. -/
def reason : Obstacle → String
  | .missing => "No such file or directory"
  | .notDirectory => "Not a directory"
  | .isDirectory => "Is a directory"
  | .nameTooLong => "File name too long"
  | .tooManyLinks => "Too many levels of symbolic links"
  | .refused refusal => refusal.reason

/-- The error for a path that met an obstacle. -/
def error (obstacle : Obstacle) (path : String) : SystemError :=
  .atPath obstacle.code obstacle.reason path

/-- Whether an obstacle means that nothing is there. Any other is an error of its own. -/
def isAbsence (obstacle : Obstacle) : Bool :=
  absentCodes.contains obstacle.code

/-- The obstacle in going on from what is no directory that can be entered. -/
def beyond : Option Entry → Obstacle
  | some (.barred refusal) => .refused refusal
  | _ => .notDirectory

end Obstacle

/-- The longest name and the longest path, in bytes. -/
def nameLimit : Nat := 255

/-- One more than the longest path, in bytes. -/
def pathLimit : Nat := 4096

/-- The number of links that one path may lead through. -/
def linkLimit : Nat := 40

/-- The names of a path's text. A slash at the end asks for a directory. -/
def stepsOf (text : String) : List String :=
  let names := (Path.slashParts text).filter (· ≠ "")
  if text.endsWith "/" && !names.isEmpty then names ++ ["."] else names

/-- Where a walk along a text begins. -/
def startOf (here : Place) (text : String) : Place :=
  if text.startsWith "/" then [] else here

/-- Names walked from a place. A link to follow is left to `jump`, with the place it stands in, its
target and the names after it. -/
def Tree.walkWith (tree : Tree) (followLast : Bool)
    (jump : Place → String → List String → Except Obstacle (Place × Entry)) :
    Place → List String → Except Obstacle (Place × Entry)
  | place, [] =>
    match tree.get? place with
    | some entry => .ok (place, entry)
    | none => .error .missing
  | place, name :: rest =>
    if !(tree.get? place).any Entry.isDirectory then .error (.beyond (tree.get? place))
    else if name = "." then tree.walkWith followLast jump place rest
    else if name = ".." then tree.walkWith followLast jump place.dropLast rest
    else if nameLimit < name.utf8ByteSize then .error .nameTooLong
    else
      match tree.get? (place ++ [name]) with
      | none => .error .missing
      | some (.link target) =>
        if rest.isEmpty && !followLast then .ok (place ++ [name], .link target)
        else jump place target rest
      | some _ => tree.walkWith followLast jump (place ++ [name]) rest

/-- Names walked from a place through at most `links` links. -/
def Tree.walk (tree : Tree) (followLast : Bool) : (links : Nat) → Place → List String →
    Except Obstacle (Place × Entry)
  | 0 => tree.walkWith followLast fun _ _ _ => .error .tooManyLinks
  | links + 1 =>
    tree.walkWith followLast fun place target rest =>
      tree.walk followLast links (startOf place target) (stepsOf target ++ rest)

/-- Where resolving stands: below the root, or relative to where relative paths begin. The same
place can be reached in both ways, and a link that is met in both is met anew. -/
structure Spot where
  /-- The number of directories above the beginning, none below the root. -/
  above : Option Nat
  names : List String
  deriving DecidableEq, Repr

namespace Spot

/-- Where a text that begins with a slash leads from. -/
def root : Spot := ⟨none, []⟩

/-- Where relative paths begin. -/
def beginning : Spot := ⟨some 0, []⟩

/-- The place of a spot, relative paths beginning at `here`. -/
def place (here : Place) (spot : Spot) : Place :=
  (match spot.above with
  | none => []
  | some above => here.take (here.length - above)) ++ spot.names

/-- The spot one directory up. -/
def up (spot : Spot) : Spot :=
  if spot.names.isEmpty then ⟨spot.above.map (· + 1), []⟩ else ⟨spot.above, spot.names.dropLast⟩

/-- The spot of a name below. -/
def down (spot : Spot) (name : String) : Spot :=
  ⟨spot.above, spot.names ++ [name]⟩

end Spot

/-- A step of resolving: a name, or the end of a link's target. -/
inductive Step
  | name (name : String)
  | close (link : Spot)
  deriving DecidableEq, Repr

/-- What is known while a path is resolved. -/
structure Resolution where
  spot : Spot
  /-- Links whose targets are being resolved. -/
  opened : List Spot
  /-- Links whose targets are known. -/
  closed : List (Spot × Spot)

/-- Names put behind a spot without looking at the tree. `isFirst` says that a new part begins, the
one after a link; if that part begins with a slash of its own, it leads from the root. -/
def appendNames (isFirst : Bool) (spot : Spot) : List Step → Spot
  | [] => spot
  | .close _ :: rest => appendNames true spot rest
  | .name "" :: .name name :: rest =>
    appendNames false (if isFirst then .root else spot) (.name name :: rest)
  | .name name :: rest =>
    appendNames false
      (match name with
      | "" | "." => spot
      | ".." => spot.up
      | name => spot.down name)
      rest

/-- Steps resolved from a spot. A link to open is left to `jump`, which is given the spot of the
link and its target. The result is the spot and whether the links lead back to themselves, in which
case the names left are put behind the link. -/
def Tree.resolveWith (tree : Tree) (here : Place)
    (jump : Resolution → Spot → String → List Step → Spot × Bool) :
    Resolution → List Step → Spot × Bool
  | state, [] => (state.spot, false)
  | state, .close link :: rest =>
    tree.resolveWith here jump
      ⟨state.spot, state.opened.erase link, (link, state.spot) :: state.closed⟩ rest
  | state, .name name :: rest =>
    if name = "" || name = "." then tree.resolveWith here jump state rest
    else if name = ".." then
      tree.resolveWith here jump { state with spot := state.spot.up } rest
    else
      let link := state.spot.down name
      match tree.get? (link.place here) with
      | some (.link target) =>
        match state.closed.find? (·.1 == link) with
        | some (_, known) => tree.resolveWith here jump { state with spot := known } rest
        | none =>
          if state.opened.contains link then (appendNames true link rest, true)
          else jump state link target rest
      | _ => tree.resolveWith here jump { state with spot := link } rest

/-- Steps resolved, opening at most `links` links. -/
def Tree.resolveFrom (tree : Tree) (here : Place) : (links : Nat) → Resolution → List Step →
    Spot × Bool
  | 0 => tree.resolveWith here fun _ link _ rest => (appendNames true link rest, true)
  | links + 1 =>
    tree.resolveWith here fun state link target rest =>
      tree.resolveFrom here links
        { state with
          spot := if target.startsWith "/" then .root else state.spot
          opened := link :: state.opened }
        ((Path.slashParts target).map Step.name ++ .close link :: rest)

/-- A file tree with the directory that relative paths begin at and the users' home directories. -/
structure System where
  tree : Tree
  here : Place
  home : String
  homes : List (String × String)

namespace System

/-- Whether a text can be no path at all. -/
def hasNul (text : String) : Bool :=
  text.toList.contains '\x00'

/-- The place and entry that a path leads to. -/
def find (system : System) (followLast : Bool) (text : String) : Except Obstacle (Place × Entry) :=
  if text = "" then .error .missing
  else if pathLimit ≤ text.utf8ByteSize then .error .nameTooLong
  else system.tree.walk followLast linkLimit (startOf system.here text) (stepsOf text)

/-- Whether a path leads to a regular file. It does not if nothing is there; any other obstacle, a
name that is too long or a directory that cannot be entered, is an error. -/
def isFile (system : System) (path : Path) : Except Fault Bool :=
  let text := toString path
  if hasNul text then .ok false
  else
    match system.find true text with
    | .ok (_, entry) => .ok entry.isFile
    | .error obstacle =>
      if obstacle.isAbsence then .ok false else .error (.system (obstacle.error text))

/-- Whether a path leads to a directory. -/
def isDirectory (system : System) (text : String) : Bool :=
  !hasNul text &&
    match system.find true text with
    | .ok (_, entry) => entry.isDirectory
    | .error _ => false

/-- Whether a path leads to anything, a link at its end included. -/
def hasEntry (system : System) (text : String) : Bool :=
  !hasNul text &&
    match system.find false text with
    | .ok _ => true
    | .error _ => false

/-- Whether a path leads to anything, the link at its end followed. -/
def isThere (system : System) (path : Path) : Bool :=
  let text := toString path
  !hasNul text &&
    match system.find true text with
    | .ok _ => true
    | .error _ => false

/-- The bytes of the file at a path. -/
def read (system : System) (path : Path) : Except Fault (List UInt8) :=
  let text := toString path
  if hasNul text then .error .nulInPath
  else
    match system.find true text with
    | .ok (_, .file bytes) => .ok bytes
    | .ok (_, .unreadable fault) => .error fault
    | .ok (_, .barred refusal) => .error (.system ((Obstacle.refused refusal).error text))
    | .ok (_, _) => .error (.system (Obstacle.isDirectory.error text))
    | .error obstacle => .error (.system (obstacle.error text))

/-- The names in the directory at a path, none if it is no directory that can be entered. -/
def list (system : System) (text : String) : Except Fault (List String) :=
  if hasNul text then .error .nulInPath
  else
    match system.find true text with
    | .ok (place, .directory) => .ok (system.tree.names place)
    | _ => .ok []

/-- A bound on the number of links that are opened while a path is resolved: each of them can be met
below the root and relative to each directory above the beginning. -/
def openingBound (system : System) : Nat :=
  (system.tree.entries.length + 1) * (system.here.length + 2)

/-- The absolute path without links that a path stands for. It is a fault if the links lead back to
themselves. -/
def resolve (system : System) (path : Path) : Except Fault Path :=
  let text := toString path
  if hasNul text then .error .nulInPath
  else
    let start : Resolution := ⟨if path.isAbsolute then .root else .beginning, [], []⟩
    let (spot, looped) :=
      system.tree.resolveFrom system.here system.openingBound start
        ((stepsOf text).map Step.name)
    let found := Path.absolute (spot.place system.here)
    if looped && system.find true (toString found) matches .error .tooManyLinks then
      .error (.linkLoop (toString found))
    else .ok found

/-- A home directory in place of a leading tilde. -/
def expandHome (system : System) (path : Path) : Except Fault Path :=
  match path.isAbsolute, path.parts with
  | false, first :: rest =>
    if first.startsWith "~" then
      let user := (first.drop 1).toString
      let home? :=
        if user = "" then some system.home
        else (system.homes.find? (·.1 == user)).map (·.2)
      match home? with
      | some home =>
        let base := Path.ofString home
        .ok ⟨base.root, base.parts ++ rest⟩
      | none => .error (if hasNul user then .nulInPath else .unknownHome)
    else .ok path
  | _, _ => .ok path

/-- The path without links that a text stands for, seen from a directory. -/
def resolveIn (system : System) (directory : Path) (text : String) : Except Fault Path := do
  let path ← system.expandHome (Path.ofString text)
  system.resolve (directory.join path)

end System

end CompletionServer.Files
