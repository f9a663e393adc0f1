import CompletionServer.Number.Literal
import CompletionServer.Text.Quoted
import CompletionServer.Text.Utf8

/-!
# Addresses

The parts of an address that requests and redirections need: whom it names, its path, and the whole
written with the characters that addresses may hold.
-/

namespace CompletionServer.Http.Url

/-- Characters that a name in an address may hold: letters, digits and a few marks. -/
def isNameChar (c : Char) : Bool :=
  c.isAlphanum || "-._~!$&'()*+,;=".toList.contains c

/-- A host's name: characters of names and bytes written with a percent sign and two digits. -/
def isName : List Char → Bool
  | [] => true
  | '%' :: high :: low :: rest => Number.isDigitOf 16 high && Number.isDigitOf 16 low && isName rest
  | c :: rest => isNameChar c && isName rest

/-- A group of a long address: one to four hexadecimal digits. -/
def isGroup (chars : List Char) : Bool :=
  1 ≤ chars.length && chars.length ≤ 4 && chars.all (Number.isDigitOf 16)

/-- A number of a short address: up to 255, without needless zeros. -/
def isOctet (chars : List Char) : Bool :=
  1 ≤ chars.length && chars.length ≤ 3 && chars.all (Number.isDigitOf 10) &&
    Number.spelled 10 chars ≤ 255 && (chars.length = 1 || chars.head? ≠ some '0')

/-- A short address: four numbers with points between them. -/
def isShortAddress (chars : List Char) : Bool :=
  let numbers := chars.splitOn '.'
  numbers.length = 4 && numbers.all isOctet

/-- The number of groups that stand between single colons. The last two may be written as a short
address if `shortEnd` says so. -/
def groupCount? (shortEnd : Bool) (chars : List Char) : Option Nat :=
  if chars.isEmpty then some 0
  else
    let groups := chars.splitOn ':'
    let last := groups.getLast?.getD []
    if groups.all isGroup then some groups.length
    else if shortEnd && groups.dropLast.all isGroup && isShortAddress last then
      some (groups.length + 1)
    else none

/-- A long address: eight groups, of which two colons in a row leave out one or more. -/
def isLongAddress (text : String) : Bool :=
  match (text.splitOn "::").map String.toList with
  | [groups] => groupCount? true groups = some 8
  | [front, back] =>
    match groupCount? false front, groupCount? true back with
    | some before, some after => before + after ≤ 7
    | _, _ => false
  | _ => false

/-- A long address, perhaps with the zone that it holds in. -/
def isZonedAddress (chars : List Char) : Bool :=
  let (front, zone) := chars.span (· ≠ '%')
  isLongAddress (String.ofList front) &&
    match zone with
    | [] => true
    | _ :: name => !name.isEmpty && !name.contains '%'

/-- An address of a form that is yet to come: its version and what stands for it. -/
def isFutureAddress : List Char → Bool
  | mark :: rest =>
    let (version, body) := rest.span (Number.isDigitOf 16)
    (mark = 'v' || mark = 'V') && !version.isEmpty &&
      match body with
      | '.' :: name => !name.isEmpty && name.all fun c => isNameChar c || c = ':'
      | _ => false
  | [] => false

/-- Whether characters name a port, if they name anything: a colon and a number below 65536. -/
def isPort : List Char → Bool
  | [] => true
  | ':' :: digits =>
    !digits.isEmpty && digits.all (Number.isDigitOf 10) && Number.spelled 10 digits < 65536
  | _ => false

/-- Whether a text names a host, by name or by an address in brackets, and perhaps a port. -/
def isAuthority (text : String) : Bool :=
  match text.toList with
  | '[' :: rest =>
    let (inside, after) := rest.span (· ≠ ']')
    (isZonedAddress inside || isFutureAddress inside) &&
      match after with
      | _ :: port => isPort port
      | [] => false
  | chars =>
    let (name, port) := chars.span (· ≠ ':')
    !name.isEmpty && isName name && isPort port

/-- Characters that are dropped from an address before it is taken apart. -/
def isDropped (c : Char) : Bool :=
  c = '\t' || c = '\r' || c = '\n'

/-- A character of a path as it stands in an address: one that would end the path, or pass for a
slash, is written by its number. -/
def pathChar (c : Char) : List Char :=
  match c with
  | '?' => "%3F".toList
  | '#' => "%23".toList
  | '\\' => "%5C".toList
  | c => [c]

/-- A path as it stands in an address, with a slash in front unless it is empty. -/
def pathText (path : String) : String :=
  let written := path.toList.flatMap pathChar
  String.ofList (if path = "" || path.startsWith "/" then written else '/' :: written)

/-- Letters and digits, and the marks that an address keeps. -/
def isKept (byte : UInt8) : Bool :=
  let c := Char.ofNat byte.toNat
  byte < 128 && (c.isAlphanum || "_.-~:/%#?=@[]!$&'()*+,;".toList.contains c)

/-- A byte that an address cannot hold, as a percent sign and two digits. -/
def percentByte (byte : UInt8) : List Char :=
  '%' :: (Text.hexDigits 2 byte.toNat).map Char.toUpper

/-- An address in which all other bytes are written with percent signs. -/
def percentEncoded (text : String) : String :=
  String.ofList ((Text.Utf8.encode text).flatMap fun byte =>
    if isKept byte then [Char.ofNat byte.toNat] else percentByte byte)

end CompletionServer.Http.Url
