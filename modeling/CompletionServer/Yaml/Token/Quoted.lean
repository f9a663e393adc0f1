import CompletionServer.Yaml.Cursor
import CompletionServer.Yaml.Problem

/-!
# Quoted scalars

A line end inside quotes is folded: alone it reads as a space, and of several all but the first are
kept. Single quotes know one escape, the quote written twice; double quotes know escapes by letter
and by number, and a backslash before a line end joins the lines.
-/

namespace CompletionServer.Yaml.Quoted

/-- The character that an escape letter stands for. -/
def letterEscape? : Char → Option Char
  | '0' => some '\x00'
  | 'a' => some '\x07'
  | 'b' => some '\x08'
  | 't' | '\t' => some '\t'
  | 'n' => some '\n'
  | 'v' => some '\x0b'
  | 'f' => some '\x0c'
  | 'r' => some '\r'
  | 'e' => some '\x1b'
  | ' ' => some ' '
  | '"' => some '"'
  | '\\' => some '\\'
  | '/' => some '/'
  | 'N' => some '\x85'
  | '_' => some '\xa0'
  | 'L' => some '\u2028'
  | 'P' => some '\u2029'
  | _ => none

/-- The number of digits after an escape letter. -/
def escapeWidth? : Char → Option Nat
  | 'x' => some 2
  | 'u' => some 4
  | 'U' => some 8
  | _ => none

/-- The code point of a number, which may be half of a pair. -/
def numbered (code : Nat) : Except Problem Nat :=
  if 0x110000 ≤ code then .error (.fault (.character code)) else .ok code

/-- The code points of characters. -/
def codesOf (chars : List Char) : List Nat := chars.map Char.toNat

/-- Line ends from the front of a line on, with the blanks around them dropped. -/
def breaks : (fuel : Nat) → (gathered : List Char) → Cursor →
    Except Problem (List Char × Cursor)
  | 0, gathered, cursor => .ok (gathered, cursor)
  | fuel + 1, gathered, cursor =>
    if cursor.atDocumentMark then .error (.malformed .documentMarkInScalar)
    else
      let cursor := cursor.skipWhile fun c => c = ' ' || c = '\t'
      match cursor.lineBreak? with
      | some (c, after) => breaks fuel (gathered ++ [c]) after
      | none => .ok (gathered, cursor)

/-- The code points of the escape whose backslash is behind. -/
def escape (cursor : Cursor) : Except Problem (List Nat × Cursor) :=
  match cursor.peek with
  | none => .error (.malformed .badEscape)
  | some letter =>
    match letterEscape? letter with
    | some c => .ok ([c.toNat], cursor.next)
    | none =>
      match escapeWidth? letter with
      | some width =>
        let digits := cursor.next.rest.take width
        if digits.length = width && digits.all (Number.isDigitOf 16) then do
          let code ← numbered (Number.spelled 16 digits)
          return ([code], cursor.next.forward width)
        else .error (.malformed .badEscape)
      | none =>
        match cursor.lineBreak? with
        | some (_, after) => do
          let (found, after) ← breaks (after.rest.length + 1) [] after
          return (codesOf found, after)
        | none => .error (.malformed .badEscape)

/-- Whether a run of ordinary characters ends here. -/
def endsRun (c : Char) : Bool :=
  c = '\'' || c = '"' || c = '\\' || c = ' ' || c = '\t' || isBreak c

/-- Code points up to a blank, a line end, or the closing quote. -/
def word (double : Bool) : (fuel : Nat) → (gathered : List Nat) → Cursor →
    Except Problem (List Nat × Cursor)
  | 0, gathered, cursor => .ok (gathered, cursor)
  | fuel + 1, gathered, cursor =>
    let (run, cursor) := cursor.takeWhile (!endsRun ·)
    let gathered := gathered ++ codesOf run
    match cursor.rest with
    | [] => .ok (gathered, cursor)
    | c :: rest =>
      if !double && c = '\'' && rest.head? = some '\'' then
        word double fuel (gathered ++ codesOf ['\'']) (cursor.forward 2)
      else if (double && c = '\'') || (!double && (c = '"' || c = '\\')) then
        word double fuel (gathered ++ codesOf [c]) cursor.next
      else if double && c = '\\' then do
        let (escaped, after) ← escape cursor.next
        word double fuel (gathered ++ escaped) after
      else .ok (gathered, cursor)

/-- Blanks between words: kept on a line, folded at its end. -/
def gap (cursor : Cursor) : Except Problem (List Char × Cursor) :=
  let (blanks, cursor) := cursor.takeWhile fun c => c = ' ' || c = '\t'
  match cursor.lineBreak? with
  | some (c, after) => do
    let (further, after) ← breaks (after.rest.length + 1) [] after
    let first := if c ≠ '\n' then [c] else if further.isEmpty then [' '] else []
    return (first ++ further, after)
  | none =>
    if cursor.rest.isEmpty then .error (.malformed .unterminatedScalar) else .ok (blanks, cursor)

/-- Words and gaps up to the closing quote. -/
def body (double : Bool) : (fuel : Nat) → (gathered : List Nat) → Cursor →
    Except Problem (List Nat × Cursor)
  | 0, _, _ => .error (.malformed .unterminatedScalar)
  | fuel + 1, gathered, cursor => do
    let (run, cursor) ← word double (cursor.rest.length + 1) gathered cursor
    if cursor.peek = some (if double then '"' else '\'') then return (run, cursor.next)
    let (between, cursor) ← gap cursor
    body double fuel (run ++ codesOf between) cursor

/-- A quoted scalar whose opening quote is at the cursor. -/
def read (double : Bool) (cursor : Cursor) : Except Problem (Text.Points × Cursor) := do
  let (codes, after) ← body double (cursor.rest.length + 1) [] cursor.next
  return (⟨codes⟩, after)

end CompletionServer.Yaml.Quoted
