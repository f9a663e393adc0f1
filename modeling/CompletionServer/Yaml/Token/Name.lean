import CompletionServer.Text.Utf8
import CompletionServer.Yaml.Cursor
import CompletionServer.Yaml.Problem
import CompletionServer.Yaml.Token

/-!
# Names, tags and directives

Anchors and directives have names of letters, digits, dashes and underscores. A tag is a handle and
a suffix; a suffix may write bytes by percent escapes.
-/

namespace CompletionServer.Yaml.Name

/-- A character of a name. -/
def isNameChar (c : Char) : Bool :=
  c.isAlphanum || c = '-' || c = '_'

/-- A nonempty name at the cursor. -/
def name (cursor : Cursor) : Except Problem (String × Cursor) :=
  match cursor.takeWhile isNameChar with
  | ([], _) => .error (.malformed .badName)
  | (chars, after) => .ok (String.ofList chars, after)

/-- The name after an anchor's or alias's mark, ended by a blank or a mark. -/
def anchor (cursor : Cursor) : Except Problem (String × Cursor) := do
  let (found, after) ← name cursor.next
  if after.peek.all fun c => atBlank (some c) || "?:,]\x7d%@`".toList.contains c then
    return (found, after)
  else throw (.malformed .badName)

/-- Bytes written by percent escapes. -/
def escapedBytes : (fuel : Nat) → (gathered : List UInt8) → Cursor →
    Except Problem (List UInt8 × Cursor)
  | 0, gathered, cursor => .ok (gathered, cursor)
  | fuel + 1, gathered, cursor =>
    match cursor.rest with
    | '%' :: high :: low :: _ =>
      if Number.isDigitOf 16 high && Number.isDigitOf 16 low then
        escapedBytes fuel (gathered ++ [UInt8.ofNat (Number.spelled 16 [high, low])])
          (cursor.forward 3)
      else .error (.malformed .badTag)
    | '%' :: _ => .error (.malformed .badTag)
    | _ => .ok (gathered, cursor)

/-- A character of a tag's suffix. -/
def isSuffixChar (c : Char) : Bool :=
  c.isAlphanum || "-;/?:@&=+$,_.!~*'()[]%".toList.contains c

/-- Characters and escapes of a suffix. -/
def suffixBody : (fuel : Nat) → (gathered : List Char) → Cursor →
    Except Problem (List Char × Cursor)
  | 0, gathered, cursor => .ok (gathered, cursor)
  | fuel + 1, gathered, cursor =>
    match cursor.peek with
    | none => .ok (gathered, cursor)
    | some '%' => do
      let (bytes, after) ← escapedBytes (cursor.rest.length + 1) [] cursor
      match Text.Utf8.decode bytes with
      | .ok text => suffixBody fuel (gathered ++ text.toList) after
      | .error _ => throw (.malformed .badTag)
    | some c =>
      if isSuffixChar c then suffixBody fuel (gathered ++ [c]) cursor.next
      else .ok (gathered, cursor)

/-- A nonempty suffix. -/
def suffix (cursor : Cursor) : Except Problem (String × Cursor) := do
  if cursor.peek.any isSuffixChar then
    let (chars, after) ← suffixBody (cursor.rest.length + 1) [] cursor
    return (String.ofList chars, after)
  else throw (.malformed .badTag)

/-- A handle: one mark before a space, or a name between two marks. -/
def handle (cursor : Cursor) : Except Problem (String × Cursor) :=
  if cursor.peek ≠ some '!' then .error (.malformed .badTag)
  else if cursor.peekAt 1 = some ' ' then .ok ("!", cursor.next)
  else
    let (chars, after) := cursor.next.takeWhile isNameChar
    if after.peek = some '!' then
      .ok (String.ofList ('!' :: chars ++ ['!']), after.next)
    else .error (.malformed .badTag)

/-- The tag at the cursor: its handle, if it has one, and its suffix. -/
def tag (cursor : Cursor) : Except Problem ((Option String × String) × Cursor) := do
  let (found, after) ←
    if cursor.peekAt 1 = some '<' then do
      let (text, after) ← suffix (cursor.forward 2)
      if after.peek = some '>' then pure ((none, text), after.next)
      else throw (.malformed .badTag)
    else if atBlank (cursor.peekAt 1) then pure ((none, "!"), cursor.next)
    else
      let ahead := cursor.next.rest.takeWhile fun c => !atSpace (some c)
      if ahead.contains '!' then do
        let (mark, after) ← handle cursor
        let (text, after) ← suffix after
        pure ((some mark, text), after)
      else do
        let (text, after) ← suffix cursor.next
        pure ((some "!", text), after)
  if atSpace after.peek then return (found, after) else throw (.malformed .badTag)

/-- A number of a version. -/
def versionNumber (cursor : Cursor) : Except Problem (Nat × Cursor) :=
  match cursor.takeWhile (Number.isDigitOf 10) with
  | ([], _) => .error (.malformed .badDirective)
  | (digits, after) =>
    if Number.digitLimit < digits.length then
      .error (.fault (.integer 10 (String.ofList digits) (.tooLong digits.length)))
    else .ok (Number.spelled 10 digits, after)

/-- The place after spaces. -/
def skipSpaces (cursor : Cursor) : Cursor :=
  cursor.skipWhile (· = ' ')

/-- What follows a directive's name. -/
def directiveValue (title : String) (cursor : Cursor) : Except Problem (Directive × Cursor) := do
  if title = "YAML" then
    let (major, after) ← versionNumber (skipSpaces cursor)
    if after.peek ≠ some '.' then throw (.malformed .badDirective)
    let (minor, after) ← versionNumber after.next
    if atSpace after.peek then return (.version major minor, after)
    else throw (.malformed .badDirective)
  else if title = "TAG" then
    let (mark, after) ← handle (skipSpaces cursor)
    if after.peek ≠ some ' ' then throw (.malformed .badDirective)
    let (text, after) ← suffix (skipSpaces after)
    if atSpace after.peek then return (.tag mark text, after)
    else throw (.malformed .badDirective)
  else return (.unknown, cursor.skipWhile (!isBreak ·))

/-- The directive at the cursor, with the line end after it. -/
def directive (cursor : Cursor) : Except Problem (Directive × Cursor) := do
  let (title, after) ← name cursor.next
  if !atSpace after.peek then throw (.malformed .badDirective)
  let (found, after) ← directiveValue title after
  let after := skipSpaces after
  let after := if after.peek = some '#' then after.skipWhile (!isBreak ·) else after
  match after.lineBreak? with
  | some (_, after) => return (found, after)
  | none => if after.rest.isEmpty then return (found, after) else throw (.malformed .badDirective)

end CompletionServer.Yaml.Name
