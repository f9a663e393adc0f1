import CompletionServer.ClientError

/-!
# How a request fails

A request ends without a result by an error that its client sees, by a fault, or because it was
cancelled.
-/

namespace CompletionServer

/-- Why a request has no result. -/
inductive Failure
  | refused (error : ClientError)
  | fault (fault : Fault)
  | cancelled

end CompletionServer
