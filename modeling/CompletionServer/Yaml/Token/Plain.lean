import CompletionServer.Yaml.Cursor

/-!
# Plain scalars

A scalar without quotes ends before a comment, before a colon that is followed by a blank, and
inside brackets before the characters that structure them. It may go on over lines that are
indented further than its collection; the line ends between are folded.
-/

namespace CompletionServer.Yaml.Plain

/-- A character that structures collections in brackets. -/
def isBracketMark (c : Char) : Bool :=
  c = ',' || c = '[' || c = ']' || c = '\x7b' || c = '\x7d'

/-- Whether the scalar ends before the first character. -/
def endsBefore (inFlow : Bool) : List Char → Bool
  | [] => true
  | c :: rest =>
    atBlank (some c) ||
      (c = ':' && (atBlank rest.head? || (inFlow && rest.head?.any isBracketMark))) ||
      (inFlow && (isBracketMark c || c = '?'))

/-- The number of characters before the scalar's end. -/
def runLength (inFlow : Bool) : List Char → Nat
  | [] => 0
  | c :: rest => if endsBefore inFlow (c :: rest) then 0 else runLength inFlow rest + 1

/-- Line ends after the first, spaces between them skipped; none when a document mark begins a
line. -/
def furtherBreaks : (fuel : Nat) → (gathered : List Char) → Cursor → Option (List Char) × Cursor
  | 0, gathered, cursor => (some gathered, cursor)
  | fuel + 1, gathered, cursor =>
    if cursor.peek = some ' ' then furtherBreaks fuel gathered cursor.next
    else
      match cursor.lineBreak? with
      | some (c, after) =>
        if after.atDocumentMark then (none, after) else furtherBreaks fuel (gathered ++ [c]) after
      | none => (some gathered, cursor)

/-- What stands between two runs: spaces of a line, or a folded line end. Nothing when the scalar
cannot go on. The flag tells whether a line ended. -/
def gap (cursor : Cursor) : List Char × Bool × Cursor :=
  let (spaces, cursor) := cursor.takeWhile (· = ' ')
  match cursor.lineBreak? with
  | some (c, after) =>
    if after.atDocumentMark then ([], true, after)
    else
      match furtherBreaks (after.rest.length + 1) [] after with
      | (none, after) => ([], true, after)
      | (some further, after) =>
        let first := if c ≠ '\n' then [c] else if further.isEmpty then [' '] else []
        (first ++ further, true, after)
  | none => (spaces, false, cursor)

/-- Runs and gaps. The flag tells whether a line ended after the last run. -/
def body (inFlow : Bool) (indent : Int) : (fuel : Nat) → (gathered between : List Char) →
    (lineEnded : Bool) → Cursor → List Char × Bool × Cursor
  | 0, gathered, _, lineEnded, cursor => (gathered, lineEnded, cursor)
  | fuel + 1, gathered, between, lineEnded, cursor =>
    if cursor.peek = some '#' then (gathered, lineEnded, cursor)
    else
      let length := runLength inFlow cursor.rest
      if length = 0 then (gathered, lineEnded, cursor)
      else
        let gathered := gathered ++ between ++ cursor.rest.take length
        let (between, ended, cursor) := gap (cursor.forward length)
        if between.isEmpty || cursor.peek = some '#' ||
            (!inFlow && (cursor.column : Int) < indent) then
          (gathered, ended, cursor)
        else body inFlow indent fuel gathered between ended cursor

/-- A plain scalar at the cursor, inside a collection indented by `outer`. -/
def read (inFlow : Bool) (outer : Int) (cursor : Cursor) : String × Bool × Cursor :=
  let (text, lineEnded, after) :=
    body inFlow (outer + 1) (cursor.rest.length + 1) [] [] false cursor
  (String.ofList text, lineEnded, after)

end CompletionServer.Yaml.Plain
