import CompletionServer.Files.System
import CompletionServer.Text.LetterCase

/-!
# Settings

Every setting is read from a variable of the environment and has a default. A number that cannot be
read leaves the default in force; a truth value is true for four words only; a list is cut at
commas. -/

namespace CompletionServer

/-- The settings of the server. -/
structure Settings where
  projectFile : Option Path
  defaultSdkRoot : String
  host : String
  port : Int
  logLevel : String
  cacheCapacity : Int
  superclassScanLimit : Int
  fuzzyEnabled : Bool
  fuzzyThreshold : Float
  emptyResultIsError : Bool
  moduleMarkers : List String
  parallelThreshold : Int
  filterWorkers : Int
  introspectionBinary : String
  introspectionTimeout : Float
  parallelismHint : String
  telemetryEnabled : Bool
  telemetryEndpoint : String
  telemetryService : String
  metricsPort : Int

namespace Settings

/-- Variables of the environment, by name. -/
abbrev Environment := List (String × String)

/-- The value of a variable, none if it is not set. -/
def lookup? (environment : Environment) (name : String) : Option String :=
  (environment.find? (·.1 == name)).map (·.2)

/-- A text setting. -/
def textOr (environment : Environment) (name default : String) : String :=
  (lookup? environment name).getD default

/-- The words for true. -/
def isTrueWord (text : String) : Bool :=
  ["1", "true", "yes", "on"].contains (Text.lowerCase (Text.trim text))

/-- A truth value. -/
def boolOr (environment : Environment) (name : String) (default : Bool) : Bool :=
  ((lookup? environment name).map isTrueWord).getD default

/-- A whole number; one that cannot be read counts as not set. -/
def integerOr (environment : Environment) (name : String) (default : Int) : Int :=
  match (lookup? environment name).map Number.integer with
  | some (.ok value) => value
  | _ => default

/-- A number; one that cannot be read counts as not set. -/
def floatOr (environment : Environment) (name : String) (default : Float) : Float :=
  ((lookup? environment name).bind Number.float?).getD default

/-- Parts between commas, trimmed, the blank ones left out. -/
def commaParts (text : String) : List String :=
  ((text.toList.splitOn ',').map fun part => Text.trim (String.ofList part)).filter (· ≠ "")

/-- A list of texts. -/
def listOr (environment : Environment) (name : String) (default : List String) : List String :=
  ((lookup? environment name).map commaParts).getD default

/-- The variables that settings are read from. -/
def variableNames : List String :=
  ["SKDAEMON_PROJECT_FILE", "SKDAEMON_SDK_ROOT", "SKDAEMON_HOST", "SKDAEMON_PORT",
   "SKDAEMON_LOG_LEVEL", "SKDAEMON_CACHE_CAPACITY", "SKDAEMON_SUPERCLASS_SCAN_LIMIT",
   "SKDAEMON_FUZZY_ENABLED", "SKDAEMON_FUZZY_THRESHOLD", "SKDAEMON_EMPTY_RESULT_IS_ERROR",
   "SKDAEMON_MODULE_BUCKET_MARKERS", "SKDAEMON_PARALLEL_FILTER_THRESHOLD",
   "SKDAEMON_FILTER_WORKERS", "SKDAEMON_SOURCEKITTEN_BIN",
   "SKDAEMON_INTROSPECTION_TIMEOUT_SECONDS", "SKDAEMON_PARALLELISM_HINT",
   "SKDAEMON_OTEL_ENABLED", "SKDAEMON_OTEL_ENDPOINT", "SKDAEMON_OTEL_SERVICE_NAME",
   "SKDAEMON_PROM_PORT"]

/-- The settings that an environment gives. Only the project file's home directory can be a
fault. -/
def ofEnvironment (system : Files.System) (environment : Environment) : Except Fault Settings := do
  let projectFile ←
    match textOr environment "SKDAEMON_PROJECT_FILE" "" with
    | "" => pure none
    | text => some <$> system.expandHome (Path.ofString text)
  return {
    projectFile
    defaultSdkRoot := textOr environment "SKDAEMON_SDK_ROOT" ""
    host := textOr environment "SKDAEMON_HOST" "127.0.0.1"
    port := integerOr environment "SKDAEMON_PORT" 8081
    logLevel := Text.upperCase (textOr environment "SKDAEMON_LOG_LEVEL" "INFO")
    cacheCapacity := integerOr environment "SKDAEMON_CACHE_CAPACITY" 5
    superclassScanLimit := integerOr environment "SKDAEMON_SUPERCLASS_SCAN_LIMIT" 100
    fuzzyEnabled := boolOr environment "SKDAEMON_FUZZY_ENABLED" true
    fuzzyThreshold := floatOr environment "SKDAEMON_FUZZY_THRESHOLD" 0.01
    emptyResultIsError := boolOr environment "SKDAEMON_EMPTY_RESULT_IS_ERROR" true
    moduleMarkers := listOr environment "SKDAEMON_MODULE_BUCKET_MARKERS" ["UI", "NS", "CG"]
    parallelThreshold := integerOr environment "SKDAEMON_PARALLEL_FILTER_THRESHOLD" 2000
    filterWorkers := integerOr environment "SKDAEMON_FILTER_WORKERS" 4
    introspectionBinary := textOr environment "SKDAEMON_SOURCEKITTEN_BIN" "sourcekitten"
    introspectionTimeout := floatOr environment "SKDAEMON_INTROSPECTION_TIMEOUT_SECONDS" 10.0
    parallelismHint := textOr environment "SKDAEMON_PARALLELISM_HINT" "-j4"
    telemetryEnabled := boolOr environment "SKDAEMON_OTEL_ENABLED" false
    telemetryEndpoint := textOr environment "SKDAEMON_OTEL_ENDPOINT" "http://localhost:4318"
    telemetryService := textOr environment "SKDAEMON_OTEL_SERVICE_NAME" "skdaemon"
    metricsPort := integerOr environment "SKDAEMON_PROM_PORT" 0 }

/-- The settings of an environment in which nothing is set. -/
def standard : Settings where
  projectFile := none
  defaultSdkRoot := ""
  host := "127.0.0.1"
  port := 8081
  logLevel := "INFO"
  cacheCapacity := 5
  superclassScanLimit := 100
  fuzzyEnabled := true
  fuzzyThreshold := 0.01
  emptyResultIsError := true
  moduleMarkers := ["UI", "NS", "CG"]
  parallelThreshold := 2000
  filterWorkers := 4
  introspectionBinary := "sourcekitten"
  introspectionTimeout := 10.0
  parallelismHint := "-j4"
  telemetryEnabled := false
  telemetryEndpoint := "http://localhost:4318"
  telemetryService := "skdaemon"
  metricsPort := 0

end Settings

end CompletionServer
