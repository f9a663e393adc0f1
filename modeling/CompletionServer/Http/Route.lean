/-!
# Routes

The paths that are served. A path that would be one of them without the slashes at its end is sent
there; every other path, and every method but one, is unknown.
-/

namespace CompletionServer.Http

/-- What can be asked for. -/
inductive Route
  | ping
  | project
  | files
  | complete
  deriving DecidableEq, Repr

namespace Route

/-- The path of a route. -/
def path : Route → String
  | .ping => "/ping"
  | .project => "/project"
  | .files => "/files"
  | .complete => "/complete"

/-- Every route. -/
def all : List Route := [.ping, .project, .files, .complete]

/-- The method that every route is asked for with. -/
def method : String := "GET"

/-- Whether a path leads to a route. A line break at the end of the path is overlooked. -/
def accepts (route : Route) (text : String) : Bool :=
  text = route.path || text = route.path ++ "\n"

/-- The route that a path leads to. -/
def ofPath? (text : String) : Option Route :=
  all.find? (·.accepts text)

end Route

/-- Where a request goes. -/
inductive Destination
  | route (route : Route)
  /-- The client is sent to another path. -/
  | elsewhere (path : String)
  | unknown
  deriving DecidableEq, Repr

/-- A path without the slashes at its end if it has any, with one otherwise. -/
def otherSlash (text : String) : String :=
  if text.endsWith "/" then String.ofList (text.toList.reverse.dropWhile (· = '/')).reverse
  else text ++ "/"

/-- Where a request with a method and a path goes. -/
def destination (method path : String) : Destination :=
  match Route.ofPath? path with
  | some route => if method = Route.method then .route route else .unknown
  | none =>
    if path ≠ "/" && (Route.ofPath? (otherSlash path)).isSome then .elsewhere (otherSlash path)
    else .unknown

end CompletionServer.Http
