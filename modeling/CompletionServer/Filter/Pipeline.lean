import CompletionServer.Filter.Bucket
import CompletionServer.Filter.Ordered
import CompletionServer.Filter.Relation
import CompletionServer.Fuzzy.Weight
import CompletionServer.Settings

/-!
# From candidates to items

Candidates are matched against the typed prefix or, without one, grouped; then filtered by relation;
then, with a prefix and a matcher, by weight; and what is left is rendered.
-/

namespace CompletionServer.Filter

/-- What the filtering depends on besides the request. -/
structure Options where
  markers : List String
  scanLimit : Int
  threshold : Float
  partLength : Int

namespace Options

/-- The options that hold where nothing is set. -/
def standard : Options := ⟨["UI", "NS", "CG"], 100, 0.01, 2000⟩

/-- The options that settings give. The limit is at least zero and a part holds at least one. -/
def ofSettings (settings : Settings) : Options :=
  ⟨settings.moduleMarkers, max 0 settings.superclassScanLimit, settings.fuzzyThreshold,
    max 1 settings.parallelThreshold⟩

end Options

/-- A pipeline: its options, its matcher if it has one, and its workers. -/
structure Pipeline where
  options : Options
  matcher : Option (String → String → Float)
  pool : Pool

/-- The candidates whose text begins with a prefix. -/
def byPrefix (pool : Pool) (length : Int) (front : String) (candidates : List Candidate) :
    Except Fault (List Candidate) :=
  ordered pool length
    (fun candidate => .ok (front.toList.isPrefixOf candidate.sourceText.toList)) candidates

/-- The candidates whose label weighs more than a threshold against a query. -/
def byWeight (pool : Pool) (length : Int) (weigh : String → String → Float) (threshold : Float)
    (query : String) (candidates : List Candidate) : Except Fault (List Candidate) :=
  ordered pool length (fun candidate => .ok (weigh query candidate.label > threshold)) candidates

namespace Pipeline

/-- The items of the candidates that a request asks for, in a project's module. -/
def apply (pipeline : Pipeline) (candidates : List Candidate) (request : Request)
    (projectModule : String) : Except Fault (List Item) := do
  if candidates.isEmpty then return []
  let options := pipeline.options
  let selected ←
    if request.prefixText ≠ "" then
      byPrefix pipeline.pool options.partLength request.prefixText candidates
    else
      pure (Categories.group ⟨projectModule, options.markers, request.sessionPrefix⟩ candidates)
  let related := byRelation request.relation options.scanLimit selected
  let weighed ←
    match pipeline.matcher with
    | some weigh =>
      if request.prefixText ≠ "" then
        byWeight pipeline.pool options.partLength weigh options.threshold request.prefixText related
      else pure related
    | none => pure related
  return weighed.map Candidate.render

end Pipeline

end CompletionServer.Filter
