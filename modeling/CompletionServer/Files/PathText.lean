import CompletionServer.Files.Glob
import CompletionServer.Text.Points

/-!
# Paths in documents

A path in a document is a text of code points. It is followed as any other path, and if it holds
what can be part of no path, NUL or half of a surrogate pair, the fault says which: the text that
was looked up at the time is encoded first, and only then searched for NUL.
-/

namespace CompletionServer.Files.System

open Text (Points)

/-- The fault of looking up a text that holds what can be part of no path. -/
def lookupFault (text : Points) : Fault :=
  match text.unencodable? Points.isByteHalf with
  | some (start, stop) => .unencodable text start stop
  | none => .nulInPath

/-- The absolute path of names. -/
def rootedText (names : List Points) : Points :=
  ⟨names.flatMap fun name => '/'.toNat :: name.codes⟩

/-- The text that is looked up when a path, seen from a directory, turns out to hold what can be
part of none. It is the name of the user whose home is asked for; or, if there are wildcards, the
directory in front of them; or else the path as far as the first name that cannot be, with the links
before it replaced. -/
def lookedUp (system : System) (directory : Path) (text : Points) : Points :=
  let path := Path.ofString text.pathText
  match system.expandHome path with
  | .error _ => ⟨(text.names.headD (Points.ofString "")).codes.tail⟩
  | .ok expanded =>
    -- The names of the text itself, after those of the directory or of the home.
    let own := if expanded = path then text.names else text.names.tail
    let whole := (directory.join expanded).parts
    let front := whole.take (whole.length - own.length)
    if Glob.hasMagic text.pathText then
      rootedText (front.map Points.ofString ++ own.takeWhile (!Glob.hasMagic ·.pathText))
    else
      let sound := own.takeWhile (!hasNul ·.pathText)
      let before : Path := .absolute (front ++ sound.map Points.pathText)
      let resolved := ((system.resolve before).toOption.getD before).parts
      rootedText (resolved.map Points.ofString ++ own[sound.length]?.toList)

/-- An outcome of following a text from a directory, its fault named by what was looked up. -/
def named {α : Type} (system : System) (directory : Path) (text : Points) :
    Except Fault α → Except Fault α
  | .error .nulInPath => .error (lookupFault (system.lookedUp directory text))
  | outcome => outcome

/-- The path without links that a text of a document stands for, seen from a directory. -/
def resolveText (system : System) (directory : Path) (text : Points) : Except Fault Path :=
  system.named directory text (system.resolveIn directory text.pathText)

end CompletionServer.Files.System
