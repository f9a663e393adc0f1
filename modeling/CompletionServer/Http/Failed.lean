import CompletionServer.ClientError
import CompletionServer.Http.Message

/-!
# Responses to failures

Errors that a client sees are told with their message. A fault is never told: its response says only
that something went wrong inside.
-/

namespace CompletionServer.Http.Response

/-- The response to an error that a client sees. -/
def ofClientError (error : ClientError) : Response :=
  .error ClientError.status error.message

/-- The response to a status that routing or reading the request ends with. A path or method that
is not served is an unknown route; of the rest, the client's errors have one status and all others
another. -/
def ofStatus (path : String) (status : Int) (detail : String) : Response :=
  if status = 404 || status = 405 then ofClientError (.unknownRoute path)
  else if 400 ≤ status && status < 500 then .error 400 detail
  else .error 500 detail

/-- The response to a request whose parameters cannot be read. -/
def invalidParameters : Response := .error 400 "Invalid request parameters"

/-- The response to a fault. -/
def internalError : Response := .error 500 "Internal server error"

end CompletionServer.Http.Response
