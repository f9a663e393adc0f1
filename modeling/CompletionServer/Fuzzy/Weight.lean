import CompletionServer.Fuzzy.Similarity
import CompletionServer.Fuzzy.Span
import CompletionServer.Number.Decimal
import CompletionServer.Text.LetterCase

/-!
# Weight of a text against a query

Every character of the query has to occur in order. The weight rewards matches that are compact and
begin early. A query in lower case does not look at case. The weight is computed in double
precision and rounded to six places.
-/

namespace CompletionServer.Fuzzy

/-- The text that a query is looked for in. -/
def haystack (query text : String) : String :=
  if Text.isLowerText query then Text.lowerCase text else text

/-- What the weight of a match depends on: characters covered, characters of query and window
together, and the place of the first. -/
structure Match where
  covered : Nat
  total : Nat
  first : Nat
  deriving DecidableEq, Repr

/-- The match of a nonempty query in a text. -/
def match? (query text : List Char) : Option Match :=
  (spanOf query text).map fun (first, last) =>
    let window := (text.drop first).take (last + 1 - first)
    ⟨coveredChars query window, query.length + window.length, first⟩

/-- Seven parts similarity and three parts position, in an arithmetic with quotients of its own. -/
def Match.scoreIn {α : Type} [Add α] [Mul α] [OfScientific α] (quotient : Nat → Nat → α)
    (found : Match) : α :=
  let compactness := quotient (2 * found.covered) found.total
  let position := quotient 1 (1 + found.first)
  0.7 * compactness + 0.3 * position

/-- The score in double precision. -/
def Match.score (found : Match) : Float :=
  found.scoreIn (Number.Binary64.nearest false)

/-- A score kept between zero and one. -/
def clamp (score : Float) : Float :=
  let positive := if score > 0.0 then score else 0.0
  if positive < 1.0 then positive else 1.0

/-- The weight of a text, matches being rated in some way. An empty query fits every text, and an
empty text fits no other. -/
def weightBy {α : Type} [OfScientific α] (rate : Match → α) (query text : String) : α :=
  if query = "" then 1.0
  else if text = "" then 0.0
  else
    match match? query.toList (haystack query text).toList with
    | some found => rate found
    | none => 0.0

/-- The weight of a text. -/
def weight (query text : String) : Float :=
  weightBy (fun found => Number.roundToMillionths (clamp found.score)) query text

end CompletionServer.Fuzzy
