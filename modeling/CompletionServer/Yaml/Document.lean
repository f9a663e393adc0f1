import CompletionServer.Yaml.Graph.Reader
import CompletionServer.Yaml.MemberOrder

/-!
# Values of YAML documents

A document's collections are numbered objects, so that a collection can hold itself; its single
values stand in place. Values are made from nodes breadth first: a collection's object exists as
soon as it is met and is filled in its turn. Which of two conversions fails first follows from that
order. A printed collection that holds itself shows three dots in its place; printing fails if a
whole number has too many digits, or if collections stand too deep.
-/

namespace CompletionServer.Yaml

/-- A value in place, or the number of a collection. -/
inductive Item
  | scalar (value : Scalar)
  /-- No number, though not by the word for it. It is the same only as that of the same node. -/
  | stray (node : Nat)
  | object (number : Nat)
  deriving DecidableEq

/-- What the place of a value in a set follows from, none unless it is a number. -/
def Item.residue? : Item → Option Nat
  | .scalar value => MemberOrder.residue? value
  | .stray _ | .object _ => none

/-- A collection. -/
inductive Object
  | list (items : List Item)
  | tuple (items : List Item)
  | mapping (pairs : List (Item × Item))
  | set (items : List Item)
  deriving DecidableEq

/-- A value with the collections it reaches. -/
structure Document where
  objects : Array Object
  root : Item
  deriving DecidableEq

namespace Document

/-- The document of an empty text. -/
def empty : Document := ⟨#[], .scalar .null⟩

end Document

/-- A collection whose object waits to be filled from a node. -/
structure Task where
  object : Nat
  node : Nat

/-- Nodes and the values made from them so far. -/
structure Construction where
  nodes : Graph
  objects : Array Object
  /-- The values of the nodes that have one. -/
  made : List (Nat × Item)
  /-- The collections to fill, the first first. -/
  waiting : List Task

namespace Construction

/-- The node of a number. -/
def node (construction : Construction) (number : Nat) : Node :=
  construction.nodes.getD number ⟨.null, .scalar ""⟩

/-- The pairs of a node, none unless it is a mapping. -/
def pairs (construction : Construction) (number : Nat) : List (Nat × Nat) :=
  match (construction.node number).content with
  | .mapping pairs => pairs
  | _ => []

/-- A mapping's pairs replaced. -/
def setPairs (construction : Construction) (number : Nat) (pairs : List (Nat × Nat)) :
    Construction :=
  { construction with
    nodes := construction.nodes.modify number fun node => { node with content := .mapping pairs } }

/-- The text of a scalar. A mapping lends the text of its value under the key `=`. -/
def scalarText (construction : Construction) : (fuel : Nat) → (number : Nat) →
    Except Problem Text.Points
  | 0, _ => .error (.fault (.tooDeep ""))
  | fuel + 1, number =>
    match (construction.node number).content with
    | .scalar text => .ok text
    | .sequence _ => .error (.malformed .wrongNodeKind)
    | .mapping pairs =>
      match pairs.find? fun pair => (construction.node pair.1).kind = .value with
      | some (_, value) => construction.scalarText fuel value
      | none => .error (.malformed .wrongNodeKind)

/-- A collection's object made empty, to be filled later. -/
def postpone (construction : Construction) (number : Nat) (object : Object) :
    Item × Construction :=
  let place := construction.objects.size
  (.object place,
    { construction with
      objects := construction.objects.push object
      waiting := construction.waiting ++ [⟨place, number⟩] })

/-- The value of a single node: scalars at once, collections empty. -/
def makeNew (construction : Construction) (number : Nat) : Except Problem (Item × Construction) :=
  let points := construction.scalarText (construction.nodes.size + 1) number
  let text : Except Problem String := do return toString (← points)
  let single (value : Except Problem Scalar) : Except Problem (Item × Construction) := do
    return (.scalar (← value), construction)
  match (construction.node number).kind with
  | .null => single do let _ ← text; return .null
  | .bool => single do return .bool (← boolValue (← points))
  | .integer => single do return .integer (← integerValue (← points))
  | .float => do
    match ← floatValue (← points) with
    | none => return (.scalar (.float (0.0 / 0.0)), construction)
    | some value =>
      return (if value.isNaN then .stray number else .scalar (.float value), construction)
  | .binary => single do return .bytes (← binaryValue (← text))
  | .moment => single do
      let written ← text
      match (construction.node number).content with
      | .scalar _ => momentValue written
      | _ => throw (.fault .collectionAsMoment)
  | .text => single do return .text (← points)
  | .sequence | .orderedPairs | .pairs => .ok (construction.postpone number (.list []))
  | .mapping => .ok (construction.postpone number (.mapping []))
  | .set => .ok (construction.postpone number (.set []))
  | .merge | .value | .unknown => .error (.malformed .unknownTag)

/-- The value of a node, made on the first call. -/
def make (construction : Construction) (number : Nat) : Except Problem (Item × Construction) :=
  match construction.made.find? (·.1 == number) with
  | some (_, item) => .ok (item, construction)
  | none => do
    let (item, construction) ← construction.makeNew number
    return (item, { construction with made := (number, item) :: construction.made })

/-- The values of several nodes in order. -/
def makeAll (construction : Construction) : List Nat → Except Problem (List Item × Construction)
  | [] => .ok ([], construction)
  | number :: rest => do
    let (item, construction) ← construction.make number
    let (items, construction) ← construction.makeAll rest
    return (item :: items, construction)

/-- A collection cannot be a key. -/
def checkKey : Item → Except Problem Unit
  | .object _ => .error (.malformed .collectionAsKey)
  | _ => .ok ()

/-- Whether two items are one key of a mapping. -/
def sameKey : Item → Item → Bool
  | .scalar left, .scalar right => left.sameKey right
  | .stray left, .stray right => left == right
  | _, _ => false

/-- A pair put into a mapping: a known key keeps its place and takes the new value. -/
def insertPair (pairs : List (Item × Item)) (key value : Item) : List (Item × Item) :=
  if pairs.any fun pair => sameKey pair.1 key then
    pairs.map fun pair => if sameKey pair.1 key then (pair.1, value) else pair
  else pairs ++ [(key, value)]

/-- The values of pairs of nodes, gathered as a mapping. -/
def makePairs (construction : Construction) : (gathered : List (Item × Item)) →
    List (Nat × Nat) → Except Problem (List (Item × Item) × Construction)
  | gathered, [] => .ok (gathered, construction)
  | gathered, (key, value) :: rest => do
    let (keyItem, construction) ← construction.make key
    checkKey keyItem
    let (item, construction) ← construction.make value
    construction.makePairs (insertPair gathered keyItem item) rest

/-- The mappings that a merge key brings in, in the order of their precedence from the last. -/
def mergeSources (construction : Construction) (number : Nat) : Except Problem (List Nat) :=
  match (construction.node number).content with
  | .mapping _ => .ok [number]
  | .sequence items => do
    for item in items do
      match (construction.node item).content with
      | .mapping _ => pure ()
      | _ => throw (.malformed .badMerge)
    return items
  | .scalar _ => .error (.malformed .badMerge)

mutual

/-- A mapping with the pairs of merged mappings put in front of its own. -/
def flatten : (fuel : Nat) → (number : Nat) → Construction → Except Problem Construction
  | 0, _, construction => .ok construction
  | fuel + 1, number, construction => flattenFrom fuel number 0 [] construction

/-- The pairs of a mapping from a place on; `merged` gathers what merge keys brought in. -/
def flattenFrom : (fuel : Nat) → (number place : Nat) → (merged : List (Nat × Nat)) →
    Construction → Except Problem Construction
  | 0, _, _, _, construction => .ok construction
  | fuel + 1, number, place, merged, construction =>
    let pairs := construction.pairs number
    match pairs[place]? with
    | none =>
      .ok (if merged.isEmpty then construction else construction.setPairs number (merged ++ pairs))
    | some (key, value) =>
      match (construction.node key).kind with
      | .merge => do
        let construction := construction.setPairs number (pairs.eraseIdx place)
        let sources ← construction.mergeSources value
        let (brought, construction) ← flattenAll fuel sources construction
        flattenFrom fuel number place (merged ++ brought.reverse.flatten) construction
      | .value =>
        flattenFrom fuel number (place + 1) merged
          { construction with
            nodes := construction.nodes.modify key fun node => { node with kind := .text } }
      | _ => flattenFrom fuel number (place + 1) merged construction

/-- Several mappings flattened, with the pairs of each. -/
def flattenAll : (fuel : Nat) → List Nat → Construction →
    Except Problem (List (List (Nat × Nat)) × Construction)
  | 0, _, construction => .ok ([], construction)
  | _ + 1, [], construction => .ok ([], construction)
  | fuel + 1, number :: rest, construction => do
    let construction ← flatten fuel number construction
    let pairs := construction.pairs number
    let (further, construction) ← flattenAll fuel rest construction
    return (pairs :: further, construction)

end

/-- A bound on the steps of flattening a mapping. -/
def flattenFuel (construction : Construction) : Nat :=
  let pairs := (construction.nodes.toList.map fun node =>
    match node.content with
    | .mapping pairs => pairs.length
    | .sequence items => items.length
    | .scalar _ => 0).foldr (· + ·) 0
  (pairs + 2) * (construction.nodes.size + 2) * 4

/-- The pairs of a mapping node after merging. -/
def mappingPairs (construction : Construction) (number : Nat) :
    Except Problem (List (Item × Item) × Construction) :=
  match (construction.node number).content with
  | .mapping _ => do
    let construction ← flatten construction.flattenFuel number construction
    construction.makePairs [] (construction.pairs number)
  | _ => .error (.malformed .wrongNodeKind)

/-- One-pair mappings as pairs, each an object of its own. -/
def makeTuples (construction : Construction) : List Nat →
    Except Problem (List Item × Construction)
  | [] => .ok ([], construction)
  | number :: rest =>
    match (construction.node number).content with
    | .mapping [(key, value)] => do
      let (keyItem, construction) ← construction.make key
      let (valueItem, construction) ← construction.make value
      let place := construction.objects.size
      let construction := { construction with
        objects := construction.objects.push (.tuple [keyItem, valueItem]) }
      let (items, construction) ← construction.makeTuples rest
      return (.object place :: items, construction)
    | _ => .error (.malformed .wrongNodeKind)

/-- A collection's object filled. -/
def setObject (construction : Construction) (number : Nat) (object : Object) : Construction :=
  { construction with objects := construction.objects.modify number fun _ => object }

/-- The collection of a task filled from its node. -/
def run (construction : Construction) (task : Task) : Except Problem Construction := do
  let node := construction.node task.node
  match node.kind, node.content with
  | .mapping, _ =>
    let (pairs, construction) ← construction.mappingPairs task.node
    return construction.setObject task.object (.mapping pairs)
  | .set, _ =>
    let (pairs, construction) ← construction.mappingPairs task.node
    let members := MemberOrder.listed Item.residue? (pairs.map (·.1))
    return construction.setObject task.object (.set members)
  | .sequence, .sequence items =>
    let (items, construction) ← construction.makeAll items
    return construction.setObject task.object (.list items)
  | .orderedPairs, .sequence items | .pairs, .sequence items =>
    let (items, construction) ← construction.makeTuples items
    return construction.setObject task.object (.list items)
  | _, _ => throw (.malformed .wrongNodeKind)

/-- Waiting collections filled, first come first. -/
def runAll : (fuel : Nat) → Construction → Except Problem Construction
  | 0, construction => .ok construction
  | fuel + 1, construction =>
    match construction.waiting with
    | [] => .ok construction
    | task :: rest => do runAll fuel (← { construction with waiting := rest }.run task)

end Construction

namespace Document

/-- The value of a text's only document. -/
def ofText (text : String) : Except Problem Document := do
  match ← graph text with
  | none => return empty
  | some (root, nodes) =>
    let (item, construction) ← Construction.make ⟨nodes, #[], [], []⟩ root
    let construction ← Construction.runAll (nodes.size + 1) construction
    return ⟨construction.objects, item⟩

/-- The number of collections that may stand around a printed one. -/
def depthLimit : Nat := 980

/-- The fault of a value too deep to be printed. -/
def tooDeep : Fault := .tooDeep " while getting the repr of an object"

mutual

/-- The form of an item inside a collection; `around` holds the collections that are being
printed. -/
def shownIn (document : Document) : (fuel : Nat) → (around : List Nat) → Item →
    Except Fault String
  | _, _, .scalar value => if value.hasText then .ok value.shown else .error .overlongInteger
  | _, _, .stray _ => .ok (Scalar.shown (.float (0.0 / 0.0)))
  | 0, _, .object _ => .error tooDeep
  | fuel + 1, around, .object number =>
    let inside := number :: around
    let isOpen := around.contains number
    if depthLimit ≤ around.length then .error tooDeep
    else
      match document.objects[number]? with
      | none => .ok ""
      | some (.list items) => do
        if isOpen then return "[...]"
        return "[" ++ ", ".intercalate (← document.shownItems fuel inside items) ++ "]"
      | some (.tuple items) => do
        if isOpen then return "(...)"
        return "(" ++ ", ".intercalate (← document.shownItems fuel inside items) ++ ")"
      | some (.mapping pairs) => do
        if isOpen then return "\x7b...\x7d"
        return "\x7b" ++ ", ".intercalate (← document.shownPairs fuel inside pairs) ++ "\x7d"
      | some (.set []) => .ok "set()"
      | some (.set items) => do
        return "\x7b" ++ ", ".intercalate (← document.shownItems fuel inside items) ++ "\x7d"

/-- The forms of several items. -/
def shownItems (document : Document) : (fuel : Nat) → (around : List Nat) → List Item →
    Except Fault (List String)
  | _, _, [] => .ok []
  | 0, _, _ :: _ => .error tooDeep
  | fuel + 1, around, item :: rest => do
    let first ← document.shownIn fuel around item
    return first :: (← document.shownItems fuel around rest)

/-- The forms of several pairs. -/
def shownPairs (document : Document) : (fuel : Nat) → (around : List Nat) →
    List (Item × Item) → Except Fault (List String)
  | _, _, [] => .ok []
  | 0, _, _ :: _ => .error tooDeep
  | fuel + 1, around, (key, value) :: rest => do
    let keyText ← document.shownIn fuel around key
    let valueText ← document.shownIn fuel around value
    return (keyText ++ ": " ++ valueText) :: (← document.shownPairs fuel around rest)

end

/-- The number of places in all collections. -/
def places (document : Document) : Nat :=
  (document.objects.toList.map fun object =>
    match object with
    | .list items | .tuple items | .set items => items.length + 2
    | .mapping pairs => pairs.length + 2).foldr (· + ·) 0

/-- The form of an item. No nested path is longer than the places of all collections. -/
def shown (document : Document) (item : Item) : Except Fault String :=
  document.shownIn (document.places + 1) [] item

/-- The text of an item that stands alone. -/
def plain (document : Document) : Item → Except Fault String
  | .scalar value => if value.hasText then .ok value.plain else .error .overlongInteger
  | item => document.shown item

/-- The text of an item that stands alone, as its code points. -/
def written (document : Document) : Item → Except Fault Text.Points
  | .scalar (.text value) => .ok value
  | item => Text.Points.ofString <$> document.plain item

/-- Whether an item counts as given: nothing, zero and what is empty do not. -/
def isGiven (document : Document) : Item → Bool
  | .scalar value => value.isGiven
  | .stray _ => true
  | .object number =>
    match document.objects[number]? with
    | some (.list items) | some (.tuple items) | some (.set items) => !items.isEmpty
    | some (.mapping pairs) => !pairs.isEmpty
    | none => false

end Document

end CompletionServer.Yaml
