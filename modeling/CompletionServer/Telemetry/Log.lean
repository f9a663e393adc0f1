import CompletionServer.Json.Access
import CompletionServer.Telemetry

/-!
# A log of telemetry

Each call to a library as a log entry: its name and its arguments.
-/

namespace CompletionServer.Telemetry

/-- Labels as a JSON object. -/
def labelsJson (labels : Labels) : Json :=
  .object (labels.map fun (name, value) => (Text.Points.ofString name, .text value))

namespace Call

/-- The name under which a call is logged. -/
def logName {α : Type} : Call α → String
  | .traceProvider _ => "TracerProvider"
  | .traceExporter _ => "OTLPSpanExporter"
  | .metricExporter _ => "OTLPMetricExporter"
  | .meterProvider _ => "MeterProvider"
  | .instrument metric => if metric.isTimed then "histogram" else "counter"
  | .attach _ => "instrument"
  | .detach _ => "uninstrument"
  | .stopMeter => "MeterProvider.shutdown"
  | .stopTracer => "TracerProvider.shutdown"
  | .expose _ => "prom.serve"
  | .register metric => if metric.isTimed then "prom.Histogram" else "prom.Counter"
  | .add _ _ => "add"
  | .record _ _ _ => "record"
  | .increment _ _ => "prom.inc"
  | .observe _ _ _ => "prom.observe"
  | .spanStart _ => "span"
  | .property _ _ => "attr"
  | .spanEnd _ => "span_end"

/-- The arguments of a call, times written by `time`. -/
def logArguments (time : Float → Json) : Call Json → List Json
  | .traceProvider resource | .meterProvider resource => [labelsJson resource]
  | .traceExporter endpoint | .metricExporter endpoint => [Json.optionText endpoint]
  | .instrument metric => [.text metric.name, .text metric.unitName, .text metric.description]
  | .attach app | .detach app => [.text app]
  | .stopMeter | .stopTracer => []
  | .expose port => [.integer port]
  | .register metric =>
    [.text metric.name, .text metric.description, Json.texts metric.labelNames]
  | .add metric labels => [.text metric.name, .integer 1, labelsJson labels]
  | .record metric taken labels => [.text metric.name, time taken, labelsJson labels]
  | .increment metric labels => [.text metric.name, labelsJson labels]
  | .observe metric labels taken => [.text metric.name, labelsJson labels, time taken]
  | .spanStart name | .spanEnd name => [.text name]
  | .property key value => [.text key, value]

/-- The log entry of a call. -/
def toJson (time : Float → Json) (call : Call Json) : Json :=
  .array (.text call.logName :: call.logArguments time)

end Call

end CompletionServer.Telemetry
