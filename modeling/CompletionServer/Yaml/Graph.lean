import CompletionServer.Yaml.Kind
import CompletionServer.Yaml.Token

/-!
# Graphs of YAML documents

Nodes have numbers, in the order in which they begin in the text, and an alias is the number of the
node it names. A collection gets its number before its parts do, so it can hold itself.
-/

namespace CompletionServer.Yaml

/-- What a node holds. -/
inductive Content
  | scalar (text : Text.Points)
  | sequence (items : List Nat)
  | mapping (pairs : List (Nat × Nat))
  deriving DecidableEq, Repr

/-- A node: its kind and what it holds. -/
structure Node where
  kind : Kind
  content : Content
  deriving DecidableEq, Repr

/-- The nodes of a document, by their numbers. -/
abbrev Graph := Array Node

/-- How the kind of a node is found. -/
inductive TagSource
  /-- From the text of a scalar, or the default of a collection. -/
  | implicit
  /-- The scalar is a text whatever it holds. -/
  | text
  /-- The tag is written. -/
  | written (tag : String)
  deriving DecidableEq, Repr

/-- The kind of a node whose default is given. -/
def TagSource.kind (source : TagSource) (default : Kind) : Kind :=
  match source with
  | .implicit => default
  | .text => .text
  | .written tag => Kind.ofTag tag

/-- How the kind of a scalar is found. A lone mark asks for its text to be looked at. -/
def TagSource.ofTag (tag : Option String) (isPlain : Bool) : TagSource :=
  match tag with
  | none => if isPlain then .implicit else .text
  | some "!" => .implicit
  | some tag => .written tag

/-- The tokens to come, and the nodes and anchors met so far. -/
structure Composition where
  rest : List Token
  nodes : Graph
  anchors : List (String × Nat)
  /-- The number of collections that may still be opened inside each other. -/
  room : Nat

namespace Composition

/-- The number of collections that may stand inside each other. -/
def depthLimit : Nat := 488

/-- Nothing met yet. -/
def start (tokens : List Token) : Composition := ⟨tokens, #[], [], depthLimit⟩

/-- The composition with other tokens to come. -/
def goOn (composition : Composition) (rest : List Token) : Composition :=
  { composition with rest }

/-- A node added at the next number, under its anchor. No anchor may come twice. -/
def add (composition : Composition) (anchor : Option String) (node : Node) :
    Except Problem (Nat × Composition) :=
  let number := composition.nodes.size
  let nodes := composition.nodes.push node
  match anchor with
  | none => .ok (number, { composition with nodes })
  | some name =>
    if composition.anchors.any (·.1 == name) then .error (.malformed .repeatedAnchor)
    else .ok (number, { composition with nodes, anchors := (name, number) :: composition.anchors })

/-- A scalar added. -/
def addScalar (composition : Composition) (anchor : Option String) (source : TagSource)
    (text : Text.Points) : Except Problem (Nat × Composition) :=
  composition.add anchor ⟨source.kind (Kind.ofText (toString text)), .scalar text⟩

/-- A node that is left out. -/
def addEmpty (composition : Composition) : Except Problem (Nat × Composition) :=
  composition.addScalar none .implicit ""

/-- The node that an alias names. -/
def named (composition : Composition) (name : String) : Except Problem Nat :=
  match composition.anchors.find? (·.1 == name) with
  | some (_, number) => .ok number
  | none => .error (.malformed .unknownAlias)

/-- The inside of a collection. -/
def enter (composition : Composition) : Except Problem Composition :=
  match composition.room with
  | 0 => .error (.fault (.tooDeep ""))
  | room + 1 => .ok { composition with room }

/-- Behind a collection again. -/
def leave (composition : Composition) : Composition :=
  { composition with room := composition.room + 1 }

/-- A node's content replaced. -/
def fill (composition : Composition) (number : Nat) (content : Content) : Composition :=
  { composition with
    nodes := composition.nodes.modify number fun node => { node with content } }

end Composition

end CompletionServer.Yaml
