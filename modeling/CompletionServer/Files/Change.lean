import CompletionServer.Files.System

/-!
# Changes of the file system

Files, directories and links are put at a path or removed with all that is below them. Directories
on the way are made, and a file written at a link goes where the link leads.
-/

namespace CompletionServer.Files.System

/-- The place of a path's last name, the links before it followed. -/
def placeOf (system : System) (path : Path) : Place :=
  let parent :=
    match system.resolve path.parent with
    | .ok resolved => resolved.parts
    | .error _ => system.here ++ path.parent.parts
  parent ++ path.parts.getLast?.toList

/-- The place that writing at a path changes. -/
def targetOf (system : System) (path : Path) : Place :=
  let place := system.placeOf path
  match system.tree.get? place with
  | some (.link _) =>
    match system.resolve path with
    | .ok resolved => resolved.parts
    | .error _ => place
  | _ => place

/-- An entry put at a path. -/
def put (system : System) (path : Path) (entry : Entry) : System :=
  let place :=
    match entry with
    | .link _ => system.placeOf path
    | _ => system.targetOf path
  let tree := system.tree.makeDirectory place.dropLast
  match entry with
  | .directory => { system with tree := tree.makeDirectory place }
  | entry => { system with tree := tree.set place entry }

/-- A path and all below it removed. -/
def delete (system : System) (path : Path) : System :=
  { system with tree := system.tree.remove (system.placeOf path) }

end CompletionServer.Files.System
