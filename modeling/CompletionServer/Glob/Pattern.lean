/-!
# Name patterns

A pattern matches a whole name. A star stands for any characters, a question mark for one, and
brackets for one of a set, which may hold ranges and may be negated. A bracket without its partner
stands for itself. A range whose ends are the wrong way round is empty.
-/

namespace CompletionServer.Glob

/-- What a set in brackets holds: single characters and closed ranges. -/
inductive Member
  | char (c : Char)
  | range (low high : Char)
  deriving DecidableEq, Repr

/-- Whether a member of a set covers a character. -/
def Member.covers : Member → Char → Bool
  | .char c, other => c == other
  | .range low high, other => low.toNat ≤ other.toNat && other.toNat ≤ high.toNat

/-- One part of a pattern. -/
inductive Part
  | star
  | any
  | char (c : Char)
  | set (negated : Bool) (members : List Member)
  deriving DecidableEq, Repr

/-- Whether a part that stands for one character stands for this one. -/
def Part.covers : Part → Char → Bool
  | .star, _ => false
  | .any, _ => true
  | .char c, other => c == other
  | .set negated members, other => members.any (·.covers other) != negated

/-- Cuts the inside of brackets at its dashes. A dash counts only with a character before it, and
after one that counts the next two characters cannot hold another. `current` gathers the chunk in
reverse and `wait` counts the characters during which no dash counts. -/
def chunksFrom : (wait : Nat) → (current : List Char) → List Char → List (List Char)
  | _, current, [] => [current.reverse]
  | 0, current, '-' :: rest => current.reverse :: chunksFrom 2 [] rest
  | wait, current, c :: rest => chunksFrom (wait - 1) (c :: current) rest

/-- A dash at the end of the inside belongs to the chunk before it. -/
def closeChunks : List (List Char) → List (List Char)
  | [chunk, []] => [chunk ++ ['-']]
  | chunk :: rest => chunk :: closeChunks rest
  | [] => []

/-- Joins chunks whose ends make an empty range, leaving both ends out. The last pair is looked at
first. -/
def dropEmptyRanges : List (List Char) → List (List Char)
  | [] => []
  | chunk :: rest =>
    match dropEmptyRanges rest with
    | [] => [chunk]
    | next :: others =>
      match chunk.getLast?, next.head? with
      | some low, some high =>
        if high.toNat < low.toNat then (chunk.dropLast ++ next.drop 1) :: others
        else chunk :: next :: others
      | _, _ => chunk :: next :: others

/-- Members of a chunk and those after it: between two chunks stands a range of the characters that
face each other. -/
def membersAfter : (chunk : List Char) → (rest : List (List Char)) → List Member
  | chunk, [] => chunk.map Member.char
  | chunk, next :: rest =>
    match chunk.getLast?, next with
    | some low, high :: tail =>
      chunk.dropLast.map Member.char ++ .range low high :: membersAfter tail rest
    | _, _ => chunk.map Member.char ++ membersAfter next rest

/-- Whether the first character of the inside belongs to the negation mark's place, so that a dash
right after it does not count. -/
def leadingWait (inside : List Char) : Nat :=
  if inside.head? = some '!' then 2 else 1

/-- The part that brackets with the given inside stand for. The negation mark is looked for after
empty ranges are gone; a dash right after it then stands for itself. A set of nothing matches
nothing, and its negation everything. -/
def setPart (inside : List Char) : Part :=
  match dropEmptyRanges (closeChunks (chunksFrom (leadingWait inside) [] inside)) with
  | [] | [[]] => .set false []
  | [['!']] => .any
  | ['!'] :: chunk :: rest => .set true (.char '-' :: membersAfter chunk rest)
  | ('!' :: chunk) :: rest => .set true (membersAfter chunk rest)
  | chunk :: rest => .set false (membersAfter chunk rest)

/-- The inside of brackets and what follows them, after the opening one. A closing bracket right at
the front, or after the negation, belongs to the inside. -/
def inside? (chars : List Char) : Option (List Char × List Char) :=
  let (lead, rest) :=
    match chars with
    | '!' :: ']' :: rest => (['!', ']'], rest)
    | '!' :: rest => (['!'], rest)
    | ']' :: rest => ([']'], rest)
    | rest => ([], rest)
  let (body, after) := rest.span (· ≠ ']')
  match after with
  | ']' :: after => some (lead ++ body, after)
  | _ => none

/-- Parts of a pattern's characters, of which the first `covered` belong to an earlier part. -/
def partsFrom : (covered : Nat) → List Char → List Part
  | _, [] => []
  | covered + 1, _ :: rest => partsFrom covered rest
  | 0, '*' :: rest => .star :: partsFrom 0 rest
  | 0, '?' :: rest => .any :: partsFrom 0 rest
  | 0, '[' :: rest =>
    match inside? rest with
    | some (inside, _) => setPart inside :: partsFrom (inside.length + 1) rest
    | none => .char '[' :: partsFrom 0 rest
  | 0, c :: rest => .char c :: partsFrom 0 rest

/-- The parts of a pattern. -/
def parts (pattern : String) : List Part :=
  partsFrom 0 pattern.toList

/-- Whether some end of the characters satisfies a test. -/
def anyTail (test : List Char → Bool) : List Char → Bool
  | [] => test []
  | c :: rest => test (c :: rest) || anyTail test rest

/-- Whether parts match all of the characters. -/
def matchesParts : List Part → List Char → Bool
  | [], chars => chars.isEmpty
  | .star :: rest, chars => anyTail (matchesParts rest) chars
  | _ :: _, [] => false
  | part :: rest, c :: chars => part.covers c && matchesParts rest chars

/-- Whether a pattern matches a name. -/
def matchesName (pattern name : String) : Bool :=
  matchesParts (parts pattern) name.toList

/-- Whether a text holds a character that makes it a pattern. -/
def hasMagic (text : String) : Bool :=
  text.toList.any fun c => c = '*' || c = '?' || c = '['

end CompletionServer.Glob
