import CompletionServer.Yaml.Graph
import CompletionServer.Yaml.Token.Reader

/-!
# Reading graphs

Nodes are made from the tokens at the front, and each choice depends on the next token alone. A
problem that ended the tokens early counts only when a token is needed that is not there: what is
wrong with the nodes before it comes first.
-/

namespace CompletionServer.Yaml

namespace Composition

/-- What the reading of one document depends on: what tag handles stand for, and the problem that
ended the tokens, if one did. -/
structure Context where
  handles : List (String × String)
  problem : Problem

/-- The handles that need no directive. -/
def standardHandles : List (String × String) :=
  [("!", "!"), ("!!", "tag:yaml.org,2002:")]

/-- Anchor and tag before a node, in either order. -/
structure Properties where
  anchor : Option String
  tag : Option (Option String × String)

/-- The properties at the front, none if it is not clear yet whether a second one follows. -/
def properties? : List Token → Option (Properties × List Token)
  | .anchor name :: .tag handle suffix :: rest => some (⟨some name, some (handle, suffix)⟩, rest)
  | .tag handle suffix :: .anchor name :: rest => some (⟨some name, some (handle, suffix)⟩, rest)
  | [.anchor _] | [.tag _ _] => none
  | .anchor name :: rest => some (⟨some name, none⟩, rest)
  | .tag handle suffix :: rest => some (⟨none, some (handle, suffix)⟩, rest)
  | rest => some (⟨none, none⟩, rest)

/-- The full tag that handle and suffix stand for. -/
def Context.fullTag (context : Context) : Option (Option String × String) →
    Except Problem (Option String)
  | none => .ok none
  | some (none, suffix) => .ok (some suffix)
  | some (some handle, suffix) =>
    match context.handles.find? (·.1 == handle) with
    | some (_, expansion) => .ok (some (expansion ++ suffix))
    | none => .error (.malformed .unknownHandle)

/-- Whether the next token is one of those given; the end of the tokens is none. -/
def nextIs (rest : List Token) (choices : List Token) : Bool :=
  rest.head?.any choices.contains

section Reading

variable (context : Context)

/-- What follows the comma before an item that is not the first. -/
def separated (first : Bool) (rest : List Token) : Except Problem (List Token) :=
  if first then .ok rest
  else
    match rest with
    | .flowEntry :: after => .ok after
    | [] => .error context.problem
    | _ => .error (.malformed .unexpectedToken)

/-- A sequence whose items are read by `items`. -/
def readSequence (items : Composition → Except Problem (List Nat × Composition))
    (anchor : Option String) (source : TagSource) (composition : Composition) :
    Except Problem (Nat × Composition) := do
  let (number, composition) ← composition.add anchor ⟨source.kind .sequence, .sequence []⟩
  let (numbers, composition) ← items (← composition.enter)
  return (number, composition.leave.fill number (.sequence numbers))

/-- A mapping whose pairs are read by `pairs`. -/
def readMapping (pairs : Composition → Except Problem (List (Nat × Nat) × Composition))
    (anchor : Option String) (source : TagSource) (composition : Composition) :
    Except Problem (Nat × Composition) := do
  let (number, composition) ← composition.add anchor ⟨source.kind .mapping, .mapping []⟩
  let (numbers, composition) ← pairs (← composition.enter)
  return (number, composition.leave.fill number (.mapping numbers))

/-- A node without content after the given properties. There has to be one. -/
def readLeftOut (anchor tag : Option String) (composition : Composition) :
    Except Problem (Nat × Composition) :=
  if anchor.isSome || tag.isSome then
    composition.addScalar anchor (TagSource.ofTag tag true) ""
  else .error (.malformed .missingContent)

mutual

/-- A node at the front. Block collections are taken only where `block` allows them, and a sequence
without its own indentation only where `indentless` does. -/
def readNode (block indentless : Bool) : (fuel : Nat) → Composition →
    Except Problem (Nat × Composition)
  | 0, _ => .error context.problem
  | fuel + 1, composition =>
    match composition.rest with
    | .alias name :: rest => do return (← composition.named name, composition.goOn rest)
    | tokens =>
      match properties? tokens with
      | none => .error context.problem
      | some (⟨anchor, written⟩, rest) => do
        let tag ← context.fullTag written
        let source := TagSource.ofTag tag true
        let onward := composition.goOn rest.tail
        match rest with
        | [] => throw context.problem
        | .scalar text isPlain :: _ =>
          onward.addScalar anchor (TagSource.ofTag tag isPlain) text
        | .flowSequenceStart :: _ =>
          readSequence (fun inside => readFlowItems fuel true [] inside) anchor source onward
        | .flowMappingStart :: _ =>
          readMapping (fun inside => readFlowPairs fuel true [] inside) anchor source onward
        | token :: _ =>
          if indentless && token == .blockEntry then
            readSequence (fun inside => readIndentless fuel [] inside) anchor source
              (composition.goOn rest)
          else if block && token == .blockSequenceStart then
            readSequence (fun inside => readBlockItems fuel [] inside) anchor source onward
          else if block && token == .blockMappingStart then
            readMapping (fun inside => readBlockPairs fuel [] inside) anchor source onward
          else readLeftOut anchor tag (composition.goOn rest)

/-- Items of a block sequence up to its end. -/
def readBlockItems : (fuel : Nat) → (before : List Nat) → Composition →
    Except Problem (List Nat × Composition)
  | 0, _, _ => .error context.problem
  | fuel + 1, before, composition =>
    match composition.rest with
    | [] => .error context.problem
    | .blockEnd :: rest => .ok (before, composition.goOn rest)
    | .blockEntry :: rest => do
      let (item, composition) ←
        readUnless [.blockEntry, .blockEnd] true false fuel (composition.goOn rest)
      readBlockItems fuel (before ++ [item]) composition
    | _ => .error (.malformed .unexpectedToken)

/-- Items of a sequence that is indented like the mapping around it. -/
def readIndentless : (fuel : Nat) → (before : List Nat) → Composition →
    Except Problem (List Nat × Composition)
  | 0, _, _ => .error context.problem
  | fuel + 1, before, composition =>
    match composition.rest with
    | [] => .error context.problem
    | .blockEntry :: rest => do
      let (item, composition) ←
        readUnless [.blockEntry, .key, .value, .blockEnd] true false fuel
          (composition.goOn rest)
      readIndentless fuel (before ++ [item]) composition
    | _ => .ok (before, composition)

/-- Pairs of a block mapping up to its end. -/
def readBlockPairs : (fuel : Nat) → (before : List (Nat × Nat)) → Composition →
    Except Problem (List (Nat × Nat) × Composition)
  | 0, _, _ => .error context.problem
  | fuel + 1, before, composition =>
    match composition.rest with
    | [] => .error context.problem
    | .blockEnd :: rest => .ok (before, composition.goOn rest)
    | .key :: rest => do
      let (key, composition) ←
        readUnless [.key, .value, .blockEnd] true true fuel (composition.goOn rest)
      let (value, composition) ←
        readValue [.key, .value, .blockEnd] true true fuel composition
      readBlockPairs fuel (before ++ [(key, value)]) composition
    | _ => .error (.malformed .unexpectedToken)

/-- Items in brackets up to the closing one. A key makes an item that is a mapping of one pair. -/
def readFlowItems : (fuel : Nat) → (first : Bool) → (before : List Nat) → Composition →
    Except Problem (List Nat × Composition)
  | 0, _, _, _ => .error context.problem
  | fuel + 1, first, before, composition =>
    match composition.rest with
    | [] => .error context.problem
    | .flowSequenceEnd :: rest => .ok (before, composition.goOn rest)
    | tokens => do
      let rest ← separated context first tokens
      match rest with
      | [] => throw context.problem
      | .flowSequenceEnd :: rest => return (before, composition.goOn rest)
      | .key :: rest =>
        let (item, composition) ←
          readMapping (fun inside => readFlowPair fuel inside) none .implicit
            (composition.goOn rest)
        readFlowItems fuel false (before ++ [item]) composition
      | rest =>
        let (item, composition) ← readNode false false fuel (composition.goOn rest)
        readFlowItems fuel false (before ++ [item]) composition

/-- The one pair of an item in brackets, its key mark being behind. -/
def readFlowPair : (fuel : Nat) → Composition →
    Except Problem (List (Nat × Nat) × Composition)
  | 0, _ => .error context.problem
  | fuel + 1, composition => do
    let (key, composition) ←
      readUnless [.value, .flowEntry, .flowSequenceEnd] false false fuel composition
    let (value, composition) ←
      readValue [.flowEntry, .flowSequenceEnd] false false fuel composition
    return ([(key, value)], composition)

/-- Pairs in braces up to the closing one. A node without a key mark is a key without a value. -/
def readFlowPairs : (fuel : Nat) → (first : Bool) → (before : List (Nat × Nat)) →
    Composition → Except Problem (List (Nat × Nat) × Composition)
  | 0, _, _, _ => .error context.problem
  | fuel + 1, first, before, composition =>
    match composition.rest with
    | [] => .error context.problem
    | .flowMappingEnd :: rest => .ok (before, composition.goOn rest)
    | tokens => do
      let rest ← separated context first tokens
      match rest with
      | [] => throw context.problem
      | .flowMappingEnd :: rest => return (before, composition.goOn rest)
      | .key :: rest =>
        let (key, composition) ←
          readUnless [.value, .flowEntry, .flowMappingEnd] false false fuel
            (composition.goOn rest)
        let (value, composition) ←
          readValue [.flowEntry, .flowMappingEnd] false false fuel composition
        readFlowPairs fuel false (before ++ [(key, value)]) composition
      | rest =>
        let (key, composition) ← readNode false false fuel (composition.goOn rest)
        let (value, composition) ← composition.addEmpty
        readFlowPairs fuel false (before ++ [(key, value)]) composition

/-- A node, left out when one of the given tokens comes instead. -/
def readUnless (choices : List Token) (block indentless : Bool) : (fuel : Nat) →
    Composition → Except Problem (Nat × Composition)
  | 0, _ => .error context.problem
  | fuel + 1, composition =>
    if composition.rest.isEmpty then .error context.problem
    else if nextIs composition.rest choices then composition.addEmpty
    else readNode block indentless fuel composition

/-- The value of a pair, left out without its mark or when one of the given tokens follows it. -/
def readValue (choices : List Token) (block indentless : Bool) : (fuel : Nat) →
    Composition → Except Problem (Nat × Composition)
  | 0, _ => .error context.problem
  | fuel + 1, composition =>
    match composition.rest with
    | [] => .error context.problem
    | .value :: rest => readUnless choices block indentless fuel (composition.goOn rest)
    | _ => composition.addEmpty

end

end Reading

/-- The directives at the front: what their handles stand for, and what follows. -/
def directives : (version : Bool) → (handles : List (String × String)) → List Token →
    Except Problem (List (String × String) × List Token)
  | version, handles, .directive (.version major _) :: rest =>
    if version then .error (.malformed .repeatedDirective)
    else if major ≠ 1 then .error (.malformed .badVersion)
    else directives true handles rest
  | version, handles, .directive (.tag handle expansion) :: rest =>
    if handles.any (·.1 == handle) then .error (.malformed .repeatedDirective)
    else directives version (handles ++ [(handle, expansion)]) rest
  | version, handles, .directive .unknown :: rest => directives version handles rest
  | _, handles, rest => .ok (handles ++ standardHandles, rest)

/-- The handles of a document that begins with its mark, and what follows the mark. -/
def marked (problem : Problem) (tokens : List Token) :
    Except Problem (List (String × String) × List Token) := do
  let (handles, rest) ← directives false [] tokens
  match rest with
  | [] => throw problem
  | .documentStart :: rest => return (handles, rest)
  | _ => throw (.malformed .unexpectedToken)

/-- A document must be the last: after at most closing marks the text has to end. -/
def endOfText (problem : Problem) (rest : List Token) : Except Problem Unit := do
  match rest.dropWhile (· == .documentEnd) with
  | [] => throw problem
  | .streamEnd :: _ => return ()
  | further =>
    let _ ← marked problem further
    throw (.malformed .severalDocuments)

/-- The only document of the tokens, none when the text is empty: the number of its first node, and
all nodes. -/
def ofTokens (tokens : List Token) (problem : Problem) : Except Problem (Option (Nat × Graph)) := do
  let fuel := 4 * tokens.length + 4
  if nextIs tokens [.streamEnd] then return none
  let isMarked := tokens.head?.any fun token =>
    match token with
    | .directive _ | .documentStart => true
    | _ => false
  let (handles, rest) ← if isMarked then marked problem tokens else pure (standardHandles, tokens)
  let isBare := isMarked && rest.head?.any fun token =>
    match token with
    | .directive _ | .documentStart | .documentEnd | .streamEnd => true
    | _ => false
  let composition := start rest
  let (root, composition) ←
    if isBare then composition.addEmpty
    else readNode ⟨handles, problem⟩ true false fuel composition
  endOfText problem composition.rest
  return some (root, composition.nodes)

end Composition

/-- The graph of a text's only document with its first node's number, none for an empty text. -/
def graph (text : String) : Except Problem (Option (Nat × Graph)) :=
  let read := tokens text
  Composition.ofTokens read.tokens (read.problem.getD (.malformed .unexpectedToken))

end CompletionServer.Yaml
