import CompletionServer.Digest.Sha1
import CompletionServer.Fault
import CompletionServer.Request.Basic

/-!
# Signatures

The signature of a request stands for its place: offset, path and cache key, each followed by a zero
byte, are digested. Prefix, relation and session prefix have no part in it. There is no signature if
the offset has too many digits to be written, or if the path or the key has halves of surrogate
pairs, which have no bytes.
-/

namespace CompletionServer.Signature

/-- A part of the message and the zero byte after it. -/
def field (text : String) : List UInt8 :=
  Text.Utf8.encode text ++ [0]

/-- The bytes that are digested for a place. -/
def message (offset : Int) (path key : String) : List UInt8 :=
  field (toString offset) ++ field path ++ field key

/-- The signature of a place. -/
def make (offset : Int) (path key : String) : String :=
  Digest.Sha1.digest (message offset path key)

/-- The signature of a request. -/
def ofRequest (request : Request) : String :=
  make request.byteOffset request.filePath request.cacheKey

/-- The string of a text, if all of it has bytes. -/
def encodable (text : Text.Points) : Except Fault String :=
  match text.unencodable? fun _ => false with
  | some (start, stop) => .error (.unencodable text start stop)
  | none => .ok (toString text)

/-- The signature of a place, if its parts can be written. -/
def ofPlace (offset : Int) (path key : Text.Points) : Except Fault String := do
  if !(Scalar.integer offset).hasText then throw .overlongInteger
  return make offset (← encodable path) (← encodable key)

/-- The request of an inquiry, if it has a signature. -/
def requestOf (inquiry : Inquiry) : Except Fault Request := do
  let _ ← ofPlace inquiry.byteOffset inquiry.filePath inquiry.cacheKey
  return inquiry.request

end CompletionServer.Signature
