import CompletionServer.Text.Blank

/-!
# Where signals are sent

Each kind of signal has a path below the collector's address. The address may be given bare, with
the version of the paths, or with the whole path of a signal. -/

namespace CompletionServer.Telemetry

/-- The path below which the paths of all signals lie. -/
def versionPath : List Char := "/v1".toList

/-- The path of a signal put behind an address that is not blank. One slash at the address's end is
dropped, and the version is not repeated. -/
def appendPath (address path : List Char) : List Char :=
  if path.isSuffixOf address then address
  else
    let base := if address.getLast? = some '/' then address.dropLast else address
    if versionPath.isSuffixOf base then base ++ path.drop versionPath.length else base ++ path

/-- The address to which a signal is sent, empty if the collector's address is blank. -/
def signalEndpoint (address path : String) : String :=
  let trimmed := Text.trim address
  if trimmed = "" then "" else String.ofList (appendPath trimmed.toList path.toList)

/-- The path of traces. -/
def tracesPath : String := "/v1/traces"

/-- The path of metrics. -/
def metricsPath : String := "/v1/metrics"

end CompletionServer.Telemetry
