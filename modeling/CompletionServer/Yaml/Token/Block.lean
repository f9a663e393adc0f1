import CompletionServer.Yaml.Cursor
import CompletionServer.Yaml.Problem

/-!
# Block scalars

A literal block keeps its line ends; a folded block joins two lines that begin without a blank. The
header may state how far the block is indented and what happens to the line ends after it.
-/

namespace CompletionServer.Yaml.Block

/-- What happens to the line ends after the text: one is kept, none, or all. -/
inductive Chomping
  | clip
  | strip
  | keep
  deriving DecidableEq, Repr

/-- What the header states. -/
structure Header where
  chomping : Chomping
  increment : Option Nat
  deriving DecidableEq, Repr

/-- The chomping that a sign stands for. -/
def chomping? : Char → Option Chomping
  | '+' => some .keep
  | '-' => some .strip
  | _ => none

/-- An indentation digit at the cursor; zero is none. -/
def increment? (cursor : Cursor) : Except Problem (Option Nat × Cursor) :=
  match cursor.peek with
  | some c =>
    if Number.isDigitOf 10 c then
      if c = '0' then .error (.malformed .badBlockHeader)
      else .ok (some (c.toNat - 0x30), cursor.next)
    else .ok (none, cursor)
  | none => .ok (none, cursor)

/-- The header after the block's mark: a sign and a digit in either order. -/
def header (cursor : Cursor) : Except Problem (Header × Cursor) := do
  let (found, cursor) ←
    match cursor.peek.bind chomping? with
    | some chomping =>
      let (increment, after) ← increment? cursor.next
      pure (Header.mk chomping increment, after)
    | none =>
      let (increment, after) ← increment? cursor
      match increment, after.peek.bind chomping? with
      | some _, some chomping => pure (Header.mk chomping increment, after.next)
      | _, _ => pure (Header.mk .clip increment, after)
  if atSpace cursor.peek then return (found, cursor) else throw (.malformed .badBlockHeader)

/-- The rest of the header's line: blanks and a comment. -/
def headerLine (cursor : Cursor) : Except Problem Cursor :=
  let cursor := cursor.skipWhile (· = ' ')
  let cursor := if cursor.peek = some '#' then cursor.skipWhile (!isBreak ·) else cursor
  match cursor.lineBreak? with
  | some (_, after) => .ok after
  | none => if cursor.rest.isEmpty then .ok cursor else .error (.malformed .badBlockHeader)

/-- Line ends before the first line, and the largest column that their spaces reach. -/
def leading : (fuel : Nat) → (gathered : List Char) → (widest : Nat) → Cursor →
    List Char × Nat × Cursor
  | 0, gathered, widest, cursor => (gathered, widest, cursor)
  | fuel + 1, gathered, widest, cursor =>
    match cursor.lineBreak? with
    | some (c, after) => leading fuel (gathered ++ [c]) widest after
    | none =>
      if cursor.peek = some ' ' then
        leading fuel gathered (max widest cursor.next.column) cursor.next
      else (gathered, widest, cursor)

/-- Line ends of empty lines, each followed by spaces up to the indentation. -/
def emptyLines (indent : Int) : (fuel : Nat) → (gathered : List Char) → Cursor →
    List Char × Cursor
  | 0, gathered, cursor => (gathered, cursor)
  | fuel + 1, gathered, cursor =>
    let cursor := cursor.skipIndent indent
    match cursor.lineBreak? with
    | some (c, after) => emptyLines indent fuel (gathered ++ [c]) after
    | none => (gathered, cursor)

/-- Lines of the block. `pending` holds the line ends of the empty lines before the cursor. Gives
the text, the last line end and the line ends after it. -/
def content (folded : Bool) (indent : Int) : (fuel : Nat) → (gathered : List Char) →
    (pending : List Char) → (lastBreak : List Char) → Cursor →
    List Char × List Char × List Char × Cursor
  | 0, gathered, pending, lastBreak, cursor => (gathered, lastBreak, pending, cursor)
  | fuel + 1, gathered, pending, lastBreak, cursor =>
    if (cursor.column : Int) = indent && !cursor.rest.isEmpty then
      let startsBare (cursor : Cursor) : Bool :=
        !(cursor.peek = some ' ' || cursor.peek = some '\t')
      let bare := startsBare cursor
      let (line, cursor) := cursor.takeWhile (!isBreak ·)
      let gathered := gathered ++ pending ++ line
      let (lineBreak, cursor) :=
        match cursor.lineBreak? with
        | some (c, after) => ([c], after)
        | none => ([], cursor)
      let (pending, cursor) := emptyLines indent (cursor.rest.length + 1) [] cursor
      if (cursor.column : Int) = indent && !cursor.rest.isEmpty then
        let join :=
          if folded && lineBreak = ['\n'] && bare && startsBare cursor then
            if pending.isEmpty then [' '] else []
          else lineBreak
        content folded indent fuel (gathered ++ join) pending lineBreak cursor
      else (gathered, lineBreak, pending, cursor)
    else (gathered, lastBreak, pending, cursor)

/-- A block scalar whose mark is at the cursor, inside a collection indented by `outer`. -/
def read (folded : Bool) (outer : Int) (cursor : Cursor) : Except Problem (String × Cursor) := do
  let (head, cursor) ← header cursor.next
  let cursor ← headerLine cursor
  let least := max (outer + 1) 1
  let (pending, indent, cursor) :=
    match head.increment with
    | none =>
      let (pending, widest, cursor) := leading (cursor.rest.length + 1) [] 0 cursor
      (pending, max least (widest : Int), cursor)
    | some increment =>
      let indent := least + increment - 1
      let (pending, cursor) := emptyLines indent (cursor.rest.length + 1) [] cursor
      (pending, indent, cursor)
  let (text, lastBreak, pending, cursor) :=
    content folded indent (cursor.rest.length + 1) [] pending [] cursor
  let tail :=
    match head.chomping with
    | .strip => []
    | .clip => lastBreak
    | .keep => lastBreak ++ pending
  return (String.ofList (text ++ tail), cursor)

end CompletionServer.Yaml.Block
