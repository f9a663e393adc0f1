/-!
# Places in a YAML text

A cursor holds the characters that remain and where they begin: the number of characters behind,
the line, and the column. A byte order mark takes no column.
-/

namespace CompletionServer.Yaml

/-- Whether the character ends a line. -/
def isBreak (c : Char) : Bool :=
  c = '\n' || c = '\r' || c = '\x85' || c = '\u2028' || c = '\u2029'

/-- A line end or the end of the text. -/
def atBreak (c : Option Char) : Bool :=
  c.all isBreak

/-- A space, a line end or the end of the text. -/
def atSpace (c : Option Char) : Bool :=
  c.all fun c => isBreak c || c = ' '

/-- A space, a tab, a line end or the end of the text. -/
def atBlank (c : Option Char) : Bool :=
  c.all fun c => isBreak c || c = ' ' || c = '\t'

/-- A place in a text. -/
structure Cursor where
  rest : List Char
  index : Nat
  line : Nat
  column : Nat
  deriving DecidableEq, Repr

namespace Cursor

/-- The front of a text. -/
def start (text : List Char) : Cursor := ⟨text, 0, 0, 0⟩

/-- The character at the cursor, none at the end. -/
def peek (cursor : Cursor) : Option Char :=
  cursor.rest.head?

/-- The character at a distance, none beyond the end. -/
def peekAt (cursor : Cursor) (distance : Nat) : Option Char :=
  cursor.rest[distance]?

/-- Whether the characters at the cursor are those given. -/
def startsWith (cursor : Cursor) (text : String) : Bool :=
  text.toList.isPrefixOf cursor.rest

/-- One character further. A carriage return before a line feed does not end the line yet. -/
def next (cursor : Cursor) : Cursor :=
  match cursor.rest with
  | [] => cursor
  | c :: rest =>
    if isBreak c && !(c = '\r' && rest.head? = some '\n') then
      ⟨rest, cursor.index + 1, cursor.line + 1, 0⟩
    else if c = '\ufeff' then ⟨rest, cursor.index + 1, cursor.line, cursor.column⟩
    else ⟨rest, cursor.index + 1, cursor.line, cursor.column + 1⟩

/-- Some characters further. -/
def forward (cursor : Cursor) : (count : Nat) → Cursor
  | 0 => cursor
  | count + 1 => cursor.next.forward count

/-- The characters at the front that satisfy a test, and the place after them. -/
def takeWhile (cursor : Cursor) (test : Char → Bool) : List Char × Cursor :=
  let taken := cursor.rest.takeWhile test
  (taken, cursor.forward taken.length)

/-- The place after the characters at the front that satisfy a test. -/
def skipWhile (cursor : Cursor) (test : Char → Bool) : Cursor :=
  (cursor.takeWhile test).2

/-- The place after spaces while the column stays below a bound. -/
def skipIndent (cursor : Cursor) (bound : Int) : Cursor :=
  let spaces := (cursor.rest.takeWhile (· = ' ')).length
  cursor.forward (min spaces (bound - cursor.column).toNat)

/-- A line end, read as a line feed unless it is a separator, and the place after it. -/
def lineBreak? (cursor : Cursor) : Option (Char × Cursor) :=
  match cursor.rest with
  | '\r' :: '\n' :: _ => some ('\n', cursor.forward 2)
  | c :: _ =>
    if c = '\u2028' || c = '\u2029' then some (c, cursor.next)
    else if isBreak c then some ('\n', cursor.next)
    else none
  | [] => none

/-- Whether a document mark stands at the cursor. -/
def atDocumentMark (cursor : Cursor) : Bool :=
  (cursor.startsWith "---" || cursor.startsWith "...") && atBlank (cursor.peekAt 3)

end Cursor

end CompletionServer.Yaml
