/-!
# Metrics

What is counted and what is timed, with the names and texts under which it is published.
-/

namespace CompletionServer.Telemetry

/-- Something that is counted or timed. -/
inductive Metric
  | completions
  | completionLatency
  | cacheLookups
  | refreshes
  | refreshLatency
  deriving DecidableEq, Repr

namespace Metric

/-- Every metric, in the order in which they are set up. -/
def all : List Metric :=
  [.completions, .completionLatency, .cacheLookups, .refreshes, .refreshLatency]

/-- The name of a metric. -/
def name : Metric → String
  | .completions => "skdaemon_completions_total"
  | .completionLatency => "skdaemon_completion_latency_ms"
  | .cacheLookups => "skdaemon_cache_lookups_total"
  | .refreshes => "skdaemon_project_refreshes_total"
  | .refreshLatency => "skdaemon_project_refresh_latency_ms"

/-- Whether a metric is a distribution of times; the others are counts. -/
def isTimed : Metric → Bool
  | .completionLatency | .refreshLatency => true
  | .completions | .cacheLookups | .refreshes => false

/-- The unit of a metric. -/
def unitName (metric : Metric) : String :=
  if metric.isTimed then "ms" else "1"

/-- What a metric says. -/
def description : Metric → String
  | .completions => "Completion requests by outcome"
  | .completionLatency => "End-to-end latency of /complete"
  | .cacheLookups => "Completion cache lookups by result"
  | .refreshes => "Project state refreshes by outcome"
  | .refreshLatency => "Time spent re-deriving the project state"

/-- The names of the labels by which a metric is told apart. -/
def labelNames : Metric → List String
  | .completions => ["result", "cache"]
  | .completionLatency | .cacheLookups | .refreshes | .refreshLatency => ["result"]

end Metric

end CompletionServer.Telemetry
