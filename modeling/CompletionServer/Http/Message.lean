import CompletionServer.Http.Url
import CompletionServer.Json.Printer
import CompletionServer.Text.LetterCase

/-!
# Requests and responses

A request names a method, a path that has been decoded already, a query and headers; a response has
a status, a type, a body and, if it sends the client elsewhere, a location. -/

namespace CompletionServer.Http

/-- A header: its name in lower case and its value, a character for each byte that was sent. -/
structure Header where
  name : String
  value : String
  deriving DecidableEq, Repr

/-- The header that a name and the text of a value make. -/
def Header.ofText (name value : String) : Header :=
  ⟨Text.lowerCase name, Text.Utf8.bytesAsChars value⟩

/-- A request. -/
structure Request where
  method : String
  path : String
  query : String
  headers : List Header
  /-- The address at which it arrived. -/
  server : String
  deriving DecidableEq, Repr

namespace Request

/-- The value of the first header with a name in lower case. -/
def header? (request : Request) (name : String) : Option String :=
  (request.headers.find? (·.name == name)).map (·.value)

/-- Whom the request is addressed to: the host that its first such header names, or where it arrived
if there is none or it names no host. -/
def authority (request : Request) : String :=
  match request.header? "host" with
  | some host => if Url.isAuthority host then host else request.server
  | none => request.server

/-- The path as it is read off the full address. -/
def addressedPath (request : Request) : String :=
  String.ofList ((Url.pathText request.path).toList.filter (!Url.isDropped ·))

/-- The full address of another path, with the same query. -/
def addressOf (request : Request) (path : String) : String :=
  "http://" ++ request.authority ++ Url.pathText path ++
    if request.query = "" then "" else "?" ++ request.query

end Request

/-- A response. -/
structure Response where
  status : Nat
  contentType : Option String
  body : String
  location : Option String
  deriving DecidableEq, Repr

namespace Response

/-- A response that is plain text. -/
def plain (text : String) : Response :=
  ⟨200, some "text/plain; charset=utf-8", text, none⟩

/-- A response that is a JSON value. -/
def json (status : Nat) (value : Json) : Response :=
  ⟨status, some "application/json", value.print, none⟩

/-- A response that tells what went wrong. -/
def error (status : Nat) (message : String) : Response :=
  json status (.object [("error", .text message)])

/-- A response that sends the client to another address. -/
def redirect (address : String) : Response :=
  ⟨307, none, "", some (Url.percentEncoded address)⟩

end Response

end CompletionServer.Http
