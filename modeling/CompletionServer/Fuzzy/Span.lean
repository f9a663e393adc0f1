/-!
# Where a query occurs in order

The characters of a query are looked for in a text one after another, each at its first place after
the one before it. The span runs from the first place to the last.
-/

namespace CompletionServer.Fuzzy

/-- The place of a character, counted from `place`, and the text after it. -/
def locate (c : Char) : (place : Nat) → List Char → Option (Nat × List Char)
  | _, [] => none
  | place, d :: rest => if d = c then some (place, rest) else locate c (place + 1) rest

/-- The place of the last character of a query whose characters before `query` are behind; `last` is
the place of the one before. -/
def lastPlace : (query : List Char) → (last place : Nat) → List Char → Option Nat
  | [], last, _, _ => some last
  | c :: query, _, place, text =>
    match locate c place text with
    | none => none
    | some (found, rest) => lastPlace query found (found + 1) rest

/-- The first and last place of a nonempty query. -/
def spanOf (query text : List Char) : Option (Nat × Nat) :=
  match query with
  | [] => none
  | c :: query =>
    match locate c 0 text with
    | none => none
    | some (first, rest) => (lastPlace query first (first + 1) rest).map fun last => (first, last)

/-- The first and last place of a query. The empty query ends before the text begins. -/
def span (query text : String) : Option (Int × Int) :=
  if query = "" then some (-1, -1)
  else (spanOf query.toList text.toList).map fun (first, last) => (first, last)

end CompletionServer.Fuzzy
