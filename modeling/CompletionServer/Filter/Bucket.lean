import CompletionServer.Candidate

/-!
# Buckets of candidates

Candidates are grouped by category and keep their order inside a group. The categories are, in
order: those of the session's prefix, those of the project's module, one for each marker of a
module's name, and all others. There is a bucket for each category; the candidates are dealt into
them in one pass, and the buckets are taken one after the other.
-/

namespace CompletionServer.Filter

/-- What the categories depend on. -/
structure Categories where
  projectModule : String
  markers : List String
  sessionPrefix : String
  deriving DecidableEq, Repr

namespace Categories

/-- Whether a nonempty text stands at the front of another. -/
def leads (front text : String) : Bool :=
  front ≠ "" && front.toList.isPrefixOf text.toList

/-- The number of the last bucket. -/
def last (categories : Categories) : Nat :=
  categories.markers.length + 2

/-- The bucket of a candidate. -/
def bucket (categories : Categories) (candidate : Candidate) : Nat :=
  let moduleName := candidate.moduleName.getD ""
  if leads categories.sessionPrefix candidate.descriptionKey then 0
  else if moduleName = "" then categories.last
  else if leads categories.projectModule moduleName then 1
  else
    match categories.markers.findIdx? (leads · moduleName) with
    | some place => 2 + place
    | none => categories.last

/-- The buckets after a candidate was put into its own, behind what lies there. -/
def deal (categories : Categories) (buckets : List (List Candidate)) (candidate : Candidate) :
    List (List Candidate) :=
  buckets.modify (categories.bucket candidate) (· ++ [candidate])

/-- The buckets after all candidates were put into them, one after the other. -/
def dealt (categories : Categories) (candidates : List Candidate) : List (List Candidate) :=
  candidates.foldl categories.deal (List.replicate (categories.last + 1) [])

/-- Candidates grouped by bucket, in the order of the buckets. -/
def group (categories : Categories) (candidates : List Candidate) : List Candidate :=
  (categories.dealt candidates).flatten

end Categories

end CompletionServer.Filter
