import CompletionServer.Text.Points

/-!
# Completion requests

A request asks for completions at a byte offset of a buffer. The offset, the path and the cache key
say where; prefix, relation and session prefix say which of the candidates there. As it is stated, a
request may have halves of surrogate pairs in its path and its key.
-/

namespace CompletionServer

/-- Whose members a request is about. -/
inductive Relation
  | thisClass
  | superClass
  deriving DecidableEq, Repr, Inhabited

/-- The number of a relation. -/
def Relation.toNat : Relation → Nat
  | .thisClass => 0
  | .superClass => 1

/-- The relation of a number. -/
def Relation.ofInt? : Int → Option Relation
  | 0 => some .thisClass
  | 1 => some .superClass
  | _ => none

/-- A completion request. -/
structure Request where
  filePath : String
  byteOffset : Nat
  prefixText : String
  cacheKey : String
  relation : Relation
  sessionPrefix : String
  deriving DecidableEq, Repr, Inhabited

/-- A request as it is stated, with the code points of its path and its cache key. -/
structure Inquiry where
  filePath : Text.Points
  byteOffset : Nat
  prefixText : String
  cacheKey : Text.Points
  relation : Relation
  sessionPrefix : String
  deriving DecidableEq, Repr

/-- The request that an inquiry states. -/
def Inquiry.request (inquiry : Inquiry) : Request :=
  ⟨toString inquiry.filePath, inquiry.byteOffset, inquiry.prefixText, toString inquiry.cacheKey,
    inquiry.relation, inquiry.sessionPrefix⟩

end CompletionServer
