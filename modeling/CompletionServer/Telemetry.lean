import CompletionServer.Settings
import CompletionServer.Telemetry.Endpoint
import CompletionServer.Telemetry.Metric

/-!
# Telemetry

Traces and metrics are sent to a collector, and the metrics may also be exposed on a port of their
own. Both are set up once, at the first start, if the settings ask for them and the libraries are
there; a failure to expose metrics is never more than that. After the end nothing is sent any more,
while exposed metrics go on.

Every operation gives the calls that it makes to the libraries, in order, and the telemetry after
it. -/

namespace CompletionServer

namespace Telemetry

/-- Names and values that tell records of one metric apart. -/
abbrev Labels := List (String × String)

/-- A call to one of the libraries. Values of properties are of the type `α`. -/
inductive Call (α : Type)
  | traceProvider (resource : Labels)
  | traceExporter (endpoint : Option String)
  | metricExporter (endpoint : Option String)
  | meterProvider (resource : Labels)
  | instrument (metric : Metric)
  | attach (app : String)
  | detach (app : String)
  | stopMeter
  | stopTracer
  | expose (port : Int)
  | register (metric : Metric)
  | add (metric : Metric) (labels : Labels)
  | record (metric : Metric) (milliseconds : Float) (labels : Labels)
  | increment (metric : Metric) (labels : Labels)
  | observe (metric : Metric) (labels : Labels) (milliseconds : Float)
  | spanStart (name : String)
  | property (key : String) (value : α)
  | spanEnd (name : String)

/-- Which libraries are there, and which of their calls fail. -/
structure Libraries where
  hasCollector : Bool
  hasExposition : Bool
  failsToExpose : Bool
  failsToRegister : Metric → Bool

end Telemetry

/-- How far telemetry is set up. -/
structure Telemetry where
  isInitialized : Bool
  isEnabled : Bool
  /-- Whether the libraries for the collector have been set up, be it in use or not. -/
  hasProviders : Bool
  /-- Whether metrics are exposed. -/
  isExposed : Bool
  deriving DecidableEq, Repr

namespace Telemetry

/-- Nothing is set up. -/
def fresh : Telemetry := ⟨false, false, false, false⟩

/-- An application that was named. -/
def named? : Option String → Option String
  | none | some "" => none
  | some app => some app

/-- The service's name where none is given, and the name of its namespace. -/
def defaultName : String := "skdaemon"

/-- What the service is called in its records. -/
def resource (settings : Settings) : Labels :=
  [("service.name",
      if settings.telemetryService = "" then defaultName else settings.telemetryService),
   ("service.namespace", defaultName)]

/-- The address for a kind of signal, none if the collector's address is blank. -/
def endpoint? (settings : Settings) (path : String) : Option String :=
  match signalEndpoint settings.telemetryEndpoint path with
  | "" => none
  | endpoint => some endpoint

/-- The calls that set up the sending of signals. -/
def providerCalls {α : Type} (settings : Settings) : List (Call α) :=
  [.traceProvider (resource settings), .traceExporter (endpoint? settings tracesPath),
   .metricExporter (endpoint? settings metricsPath), .meterProvider (resource settings)] ++
    Metric.all.map .instrument

/-- The calls that register metrics one after the other, up to the first that fails, and whether all
of them succeed. -/
def registerCalls {α : Type} (fails : Metric → Bool) : List Metric → List (Call α) × Bool
  | [] => ([], true)
  | metric :: rest =>
    if fails metric then ([.register metric], false)
    else
      let (calls, succeeded) := registerCalls fails rest
      (.register metric :: calls, succeeded)

/-- The calls that expose the metrics, and whether they are exposed then. A port that is not
positive asks for no exposition. -/
def exposeCalls {α : Type} (libraries : Libraries) (port : Int) : List (Call α) × Bool :=
  if port ≤ 0 || !libraries.hasExposition then ([], false)
  else if libraries.failsToExpose then ([.expose port], false)
  else
    let (calls, succeeded) := registerCalls libraries.failsToRegister Metric.all
    (.expose port :: calls, succeeded)

/-- The start of an application. Only the first start sets anything up. -/
def initialized {α : Type} (telemetry : Telemetry) (settings : Settings) (libraries : Libraries)
    (app : Option String) : List (Call α) × Telemetry :=
  let attach := (named? app).toList.map Call.attach
  if telemetry.isInitialized then
    (if telemetry.isEnabled && telemetry.hasProviders then attach else [], telemetry)
  else if !settings.telemetryEnabled || !libraries.hasCollector then
    ([], { telemetry with isInitialized := true })
  else
    let (calls, isExposed) := exposeCalls libraries settings.metricsPort
    (providerCalls settings ++ attach ++ calls, ⟨true, true, true, isExposed⟩)

/-- The end of an application. What fails then is passed over. -/
def shutDown {α : Type} (telemetry : Telemetry) (app : Option String) :
    List (Call α) × Telemetry :=
  if !telemetry.isInitialized then ([], telemetry)
  else
    (if telemetry.hasProviders then
        (named? app).toList.map Call.detach ++ [.stopMeter, .stopTracer]
      else [],
      { telemetry with isEnabled := false })

/-- A time as it is recorded: never below zero. -/
def recordedTime (milliseconds : Float) : Float :=
  if milliseconds > 0.0 then milliseconds else 0.0

/-- A result as it is recorded. -/
def recordedResult (result : String) : String :=
  if result = "" then "unknown" else result

/-- The word for a lookup's result. -/
def lookupWord (hit : Bool) : String :=
  if hit then "hit" else "miss"

/-- Calls to the collector, if it is in use, and to the exposed metrics, if there are any. -/
def calls {α : Type} (telemetry : Telemetry) (sent exposed : List (Call α)) : List (Call α) :=
  (if telemetry.isEnabled then sent else []) ++ if telemetry.isExposed then exposed else []

/-- A count and a time, each with its labels. The time is looked at only if it is recorded. -/
def countAndTime {α : Type} (telemetry : Telemetry) (count time : Metric) (labels : Labels)
    (result : String) (milliseconds : Except Fault Float) : Except Fault (List (Call α)) :=
  if telemetry.isEnabled || telemetry.isExposed then do
    let taken := recordedTime (← milliseconds)
    return telemetry.calls
      [.add count labels, .record time taken [("result", result)]]
      [.increment count labels, .observe time [("result", result)] taken]
  else .ok []

/-- A completion has ended. -/
def completion {α : Type} (telemetry : Telemetry) (result : String)
    (milliseconds : Except Fault Float) (hit : Bool) : Except Fault (List (Call α)) :=
  let label := recordedResult result
  telemetry.countAndTime .completions .completionLatency
    [("result", label), ("cache", lookupWord hit)] label milliseconds

/-- The cache was looked into. -/
def lookup {α : Type} (telemetry : Telemetry) (hit : Bool) : List (Call α) :=
  let labels := [("result", lookupWord hit)]
  telemetry.calls [.add .cacheLookups labels] [.increment .cacheLookups labels]

/-- The project was refreshed. -/
def refresh {α : Type} (telemetry : Telemetry) (result : String)
    (milliseconds : Except Fault Float) : Except Fault (List (Call α)) :=
  let label := recordedResult result
  telemetry.countAndTime .refreshes .refreshLatency [("result", label)] label milliseconds

/-- Whether a span is recorded. -/
def hasSpans (telemetry : Telemetry) : Bool :=
  telemetry.isEnabled && telemetry.hasProviders

/-- A span with the properties that have a value. -/
def span {α : Type} (telemetry : Telemetry) (name : String)
    (properties : List (String × Option α)) : List (Call α) :=
  if telemetry.hasSpans then
    [.spanStart name] ++
      properties.filterMap (fun (key, value) => value.map (Call.property key)) ++ [.spanEnd name]
  else []

end Telemetry

end CompletionServer
