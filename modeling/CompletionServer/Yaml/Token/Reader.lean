import CompletionServer.Yaml.Token.Block
import CompletionServer.Yaml.Token.Name
import CompletionServer.Yaml.Token.Plain
import CompletionServer.Yaml.Token.Quoted

/-!
# Reading tokens

Tokens are read in order of the text. A token that may turn out to be a mapping key is remembered
with its place; when a colon follows on the same line, the key's token is put before it, and before
that the start of a block mapping if the key begins one. Indentation opens and closes block
collections.
-/

namespace CompletionServer.Yaml

/-- A token that may turn out to be a mapping key. -/
structure PossibleKey where
  /-- The number of tokens before it. -/
  token : Nat
  /-- Whether only a key makes sense there. -/
  isRequired : Bool
  index : Nat
  line : Nat
  column : Nat
  deriving DecidableEq, Repr

/-- What has been read of a text. -/
structure Scan where
  cursor : Cursor
  /-- The tokens so far. -/
  tokens : List Token
  /-- The depth of brackets; a closing bracket too many leaves it below zero. -/
  depth : Int
  /-- The column of the innermost block collection, below zero outside all. -/
  indent : Int
  /-- The columns of the collections around it. -/
  outerIndents : List Int
  /-- Whether a key may begin at the cursor. -/
  allowsKey : Bool
  /-- The possible key of each depth. -/
  possibleKeys : List (Int × PossibleKey)

namespace Scan

/-- A scan of which nothing is read. -/
def start (text : List Char) : Scan :=
  ⟨Cursor.start text, [], 0, -1, [], true, []⟩

/-- Whether the cursor is inside brackets. -/
def inFlow (scan : Scan) : Bool :=
  scan.depth ≠ 0

/-- A token added behind those read. -/
def push (scan : Scan) (token : Token) : Scan :=
  { scan with tokens := scan.tokens ++ [token] }

/-- A token added after the first `place` ones. -/
def insertAt (scan : Scan) (place : Nat) (token : Token) : Scan :=
  { scan with tokens := scan.tokens.take place ++ token :: scan.tokens.drop place }

/-- Whether the cursor has left a possible key behind. -/
def isStale (scan : Scan) (key : PossibleKey) : Bool :=
  key.line ≠ scan.cursor.line || 1024 < scan.cursor.index - key.index

/-- Forgets the possible keys that the cursor has left behind; a required one must not be. -/
def dropStaleKeys (scan : Scan) : Except Problem Scan :=
  if scan.possibleKeys.any fun entry => scan.isStale entry.2 && entry.2.isRequired then
    .error (.malformed .missingColon)
  else
    .ok { scan with possibleKeys := scan.possibleKeys.filter fun entry => !scan.isStale entry.2 }

/-- The tokens before which nothing can be put any more: those in front of the first possible key.
-/
def settled (scan : Scan) : List Token :=
  scan.possibleKeys.foldl
    (fun tokens entry => if scan.isStale entry.2 then tokens else tokens.take entry.2.token)
    scan.tokens

/-- Forgets the possible key of the current depth, which must not be required. -/
def dropKey (scan : Scan) : Except Problem Scan :=
  if scan.possibleKeys.any fun entry => entry.1 = scan.depth && entry.2.isRequired then
    .error (.malformed .missingColon)
  else
    .ok { scan with possibleKeys := scan.possibleKeys.filter fun entry => entry.1 ≠ scan.depth }

/-- Remembers that the next token may be a key, if one may begin here. -/
def rememberKey (scan : Scan) : Except Problem Scan :=
  if scan.allowsKey then do
    let isRequired := !scan.inFlow && scan.indent = scan.cursor.column
    let scan ← scan.dropKey
    let key : PossibleKey :=
      ⟨scan.tokens.length, isRequired, scan.cursor.index, scan.cursor.line, scan.cursor.column⟩
    return { scan with possibleKeys := scan.possibleKeys ++ [(scan.depth, key)] }
  else .ok scan

/-- Closes block collections that are indented further than a column. -/
def closeBlocks (column : Int) : (outer : List Int) → Scan → Scan
  | outer, scan =>
    if scan.indent ≤ column then scan
    else
      match outer with
      | [] => { scan.push .blockEnd with indent := -1, outerIndents := [] }
      | parent :: rest =>
        closeBlocks column rest
          { scan.push .blockEnd with indent := parent, outerIndents := rest }

/-- Closes block collections that are indented further than a column, unless inside brackets. -/
def unwind (scan : Scan) (column : Int) : Scan :=
  if scan.inFlow then scan else closeBlocks column scan.outerIndents scan

/-- Opens a block collection at a column, if it is indented further than the one around it. -/
def indentTo (scan : Scan) (column : Int) : Option Scan :=
  if scan.indent < column then
    some { scan with outerIndents := scan.indent :: scan.outerIndents, indent := column }
  else none

/-- A token of some characters without content. -/
def mark (scan : Scan) (width : Nat) (token : Token) : Scan :=
  { scan.push token with cursor := scan.cursor.forward width }

/-- The end of the text. -/
def readEnd (scan : Scan) : Except Problem Scan := do
  let scan ← (scan.unwind (-1)).dropKey
  return { scan.push .streamEnd with allowsKey := false, possibleKeys := [] }

/-- A directive. -/
def readDirective (scan : Scan) : Except Problem Scan := do
  let scan ← (scan.unwind (-1)).dropKey
  let (found, cursor) ← Name.directive scan.cursor
  return { scan.push (.directive found) with cursor, allowsKey := false }

/-- A document mark. -/
def readDocumentMark (token : Token) (scan : Scan) : Except Problem Scan := do
  let scan ← (scan.unwind (-1)).dropKey
  return { scan.mark 3 token with allowsKey := false }

/-- An opening bracket, which may begin a key. -/
def readOpening (token : Token) (scan : Scan) : Except Problem Scan := do
  let scan ← scan.rememberKey
  return { scan.mark 1 token with depth := scan.depth + 1, allowsKey := true }

/-- A closing bracket. -/
def readClosing (token : Token) (scan : Scan) : Except Problem Scan := do
  let scan ← scan.dropKey
  return { scan.mark 1 token with depth := scan.depth - 1, allowsKey := false }

/-- A comma. -/
def readComma (scan : Scan) : Except Problem Scan := do
  let scan ← { scan with allowsKey := true }.dropKey
  return scan.mark 1 .flowEntry

/-- A dash. Outside brackets it may open a block sequence. -/
def readDash (scan : Scan) : Except Problem Scan := do
  let scan ←
    if scan.inFlow then pure scan
    else if !scan.allowsKey then throw (.malformed .entryNotAllowed)
    else
      match scan.indentTo scan.cursor.column with
      | some opened => pure (opened.push .blockSequenceStart)
      | none => pure scan
  let scan ← { scan with allowsKey := true }.dropKey
  return scan.mark 1 .blockEntry

/-- A question mark. Outside brackets it may open a block mapping. -/
def readQuestion (scan : Scan) : Except Problem Scan := do
  let scan ←
    if scan.inFlow then pure scan
    else if !scan.allowsKey then throw (.malformed .keyNotAllowed)
    else
      match scan.indentTo scan.cursor.column with
      | some opened => pure (opened.push .blockMappingStart)
      | none => pure scan
  let scan ← { scan with allowsKey := !scan.inFlow }.dropKey
  return scan.mark 1 .key

/-- A colon. If a possible key stands before it, the key is announced at its place. -/
def readColon (scan : Scan) : Except Problem Scan := do
  match scan.possibleKeys.find? fun entry => entry.1 = scan.depth with
  | some (_, key) =>
    let scan := { scan with
      possibleKeys := scan.possibleKeys.filter fun entry => entry.1 ≠ scan.depth }
    let scan := scan.insertAt key.token .key
    let scan :=
      if scan.inFlow then scan
      else
        match scan.indentTo key.column with
        | some opened => opened.insertAt key.token .blockMappingStart
        | none => scan
    return { scan.mark 1 .value with allowsKey := false }
  | none =>
    let scan ←
      if scan.inFlow then pure scan
      else if !scan.allowsKey then throw (.malformed .valueNotAllowed)
      else
        match scan.indentTo scan.cursor.column with
        | some opened => pure (opened.push .blockMappingStart)
        | none => pure scan
    let scan ← { scan with allowsKey := !scan.inFlow }.dropKey
    return scan.mark 1 .value

/-- A token with content, which may be a key. -/
def readContent (read : Cursor → Except Problem (Token × Cursor)) (scan : Scan) :
    Except Problem Scan := do
  let scan ← scan.rememberKey
  let (token, cursor) ← read scan.cursor
  return { scan.push token with cursor, allowsKey := false }

/-- A plain scalar, which may be a key. After its line a key may begin again. -/
def readPlain (scan : Scan) : Except Problem Scan := do
  let scan ← scan.rememberKey
  let (text, lineEnded, cursor) := Plain.read scan.inFlow scan.indent scan.cursor
  return { scan.push (.scalar text true) with cursor, allowsKey := lineEnded }

/-- A block scalar, after which a key may begin. -/
def readBlock (folded : Bool) (scan : Scan) : Except Problem Scan := do
  let scan ← { scan with allowsKey := true }.dropKey
  let (text, cursor) ← Block.read folded scan.indent scan.cursor
  return { scan.push (.scalar text false) with cursor }

/-- Whether a plain scalar begins at the cursor. -/
def atPlain (scan : Scan) : Bool :=
  match scan.cursor.rest with
  | [] => false
  | c :: rest =>
    !(atBlank (some c) || "-?:,[]\x7b\x7d#&*!|>'\"%@`".toList.contains c) ||
      (!atBlank rest.head? && (c = '-' || (!scan.inFlow && (c = '?' || c = ':'))))

/-- The token at the cursor, blanks being behind. -/
def readToken (scan : Scan) : Except Problem Scan :=
  let cursor := scan.cursor
  let separated := atBlank (cursor.peekAt 1)
  match cursor.rest with
  | [] => scan.readEnd
  | c :: _ =>
    if c = '%' && cursor.column = 0 then scan.readDirective
    else if cursor.column = 0 && cursor.startsWith "---" && atBlank (cursor.peekAt 3) then
      scan.readDocumentMark .documentStart
    else if cursor.column = 0 && cursor.startsWith "..." && atBlank (cursor.peekAt 3) then
      scan.readDocumentMark .documentEnd
    else if c = '[' then scan.readOpening .flowSequenceStart
    else if c = '\x7b' then scan.readOpening .flowMappingStart
    else if c = ']' then scan.readClosing .flowSequenceEnd
    else if c = '\x7d' then scan.readClosing .flowMappingEnd
    else if c = ',' then scan.readComma
    else if c = '-' && separated then scan.readDash
    else if c = '?' && (scan.inFlow || separated) then scan.readQuestion
    else if c = ':' && (scan.inFlow || separated) then scan.readColon
    else if c = '*' then
      scan.readContent fun cursor => do
        let (name, after) ← Name.anchor cursor
        return (.alias name, after)
    else if c = '&' then
      scan.readContent fun cursor => do
        let (name, after) ← Name.anchor cursor
        return (.anchor name, after)
    else if c = '!' then
      scan.readContent fun cursor => do
        let ((handle, suffix), after) ← Name.tag cursor
        return (.tag handle suffix, after)
    else if c = '|' && !scan.inFlow then scan.readBlock false
    else if c = '>' && !scan.inFlow then scan.readBlock true
    else if c = '\'' || c = '"' then
      scan.readContent fun cursor => do
        let (text, after) ← Quoted.read (c = '"') cursor
        return (.scalar text false, after)
    else if scan.atPlain then scan.readPlain
    else .error (.malformed .strayCharacter)

/-- Blanks, comments and line ends before a token. After a line end outside brackets a key may
begin. -/
def skipBlanks : (fuel : Nat) → Scan → Scan
  | 0, scan => scan
  | fuel + 1, scan =>
    let cursor := scan.cursor.skipWhile (· = ' ')
    let cursor := if cursor.peek = some '#' then cursor.skipWhile (!isBreak ·) else cursor
    match cursor.lineBreak? with
    | some (_, after) =>
      skipBlanks fuel { scan with cursor := after, allowsKey := scan.allowsKey || !scan.inFlow }
    | none => { scan with cursor }

/-- A byte order mark at the front of the text. -/
def skipByteOrderMark (scan : Scan) : Scan :=
  if scan.cursor.index = 0 && scan.cursor.peek = some '\ufeff' then
    { scan with cursor := scan.cursor.next }
  else scan

/-- The next token, with the block ends before it. -/
def advance (scan : Scan) : Except Problem Scan := do
  let scan := scan.skipByteOrderMark
  let scan ← (scan.skipBlanks (scan.cursor.rest.length + 1)).dropStaleKeys
  (scan.unwind scan.cursor.column).readToken

end Scan

/-- The tokens of a text. When a problem ended them early it is given, and the tokens are those that
were settled before it. -/
structure Tokens where
  tokens : List Token
  problem : Option Problem

/-- Tokens up to the end of the text or a problem. -/
def tokensFrom : (fuel : Nat) → Scan → Tokens
  | 0, scan => ⟨scan.tokens, some (.malformed .strayCharacter)⟩
  | fuel + 1, scan =>
    match scan.advance with
    | .error problem => ⟨scan.settled, some problem⟩
    | .ok further =>
      if further.tokens.getLast? = some .streamEnd then ⟨further.tokens, none⟩
      else tokensFrom fuel further

/-- A character that a text may hold. -/
def isTextChar (c : Char) : Bool :=
  let code := c.toNat
  code = 0x09 || code = 0x0a || code = 0x0d || (0x20 ≤ code && code ≤ 0x7e) || code = 0x85 ||
    (0xa0 ≤ code && code ≤ 0xd7ff) || (0xe000 ≤ code && code ≤ 0xfffd) || 0x10000 ≤ code

/-- The tokens of a text. -/
def tokens (text : String) : Tokens :=
  let chars := text.toList
  if chars.all isTextChar then tokensFrom (chars.length + 1) (Scan.start chars)
  else ⟨[], some (.malformed .unprintableCharacter)⟩

end CompletionServer.Yaml
