import CompletionServer.Failure
import CompletionServer.Request.Basic
import CompletionServer.Text.Blank

/-!
# Requests from headers

A request travels as headers. They are looked at in a fixed order, and the first one that is missing
or cannot be used is the error.
-/

namespace CompletionServer.Request

/-- The headers of a request, as far as they were given. -/
structure Headers where
  offset : Option String
  path : Option String
  prefixText : Option String
  cacheKey : Option String
  relation : Option String
  sessionPrefix : Option String
  deriving DecidableEq, Repr, Inhabited

/-- A refusal of the client's headers. -/
def refuse {α : Type} (error : ClientError) : Except Failure α :=
  .error (.refused error)

/-- An offset: ASCII digits between blanks. -/
def parseOffset : Option String → Except Failure Nat
  | none =>
    refuse (.missingParameter ClientError.offsetHeader "as completion offset for completion")
  | some raw =>
    let digits := (Text.trim raw).toList
    if digits.isEmpty || !digits.all (Number.isDigitOf 10) then refuse (.invalidOffset raw)
    else if Number.digitLimit < digits.length then
      .error (.fault (.integer 10 (Text.trim raw) (.tooLong digits.length)))
    else .ok (Number.spelled 10 digits)

/-- A relation: any spelling of zero or one as a whole number. -/
def parseRelation : Option String → Except Failure Relation
  | none =>
    refuse (.missingParameter "X-Type" "as relation type (0 = this class, 1 = superclass)")
  | some raw =>
    let found :=
      match Number.integer (Text.trim raw) with
      | .ok value => Relation.ofInt? value
      | .error _ => none
    match found with
    | some relation => .ok relation
    | none => refuse (.invalidParameter "X-Type" raw "0 (this class) or 1 (superclass)")

/-- The request that headers make. -/
def ofHeaders (headers : Headers) : Except Failure Request := do
  let byteOffset ← parseOffset headers.offset
  let filePath ←
    match headers.path with
    | none | some "" => refuse (.missingParameter "X-Path" "as path to the temporary buffer")
    | some path => pure path
  let prefixText ←
    match headers.prefixText with
    | none => refuse (.missingParameter "X-Prefix" "")
    | some text => pure text
  let cacheKey ←
    match headers.cacheKey with
    | none => refuse (.missingParameter "X-Cachekey" "")
    | some key => pure key
  let relation ← parseRelation headers.relation
  return ⟨filePath, byteOffset, prefixText, cacheKey, relation, headers.sessionPrefix.getD ""⟩

end CompletionServer.Request
