import CompletionServer.Text.LetterCase

/-!
# Completion candidates

A candidate is one item that the introspection tool reports. A candidate whose context names the
superclass was inherited.
-/

namespace CompletionServer

/-- One item that the introspection tool reports. -/
structure Candidate where
  sourceText : String
  descriptionKey : String
  moduleName : Option String
  contextTag : String
  name : String
  kind : String
  typeName : String
  deriving DecidableEq, Repr, Inhabited

/-- What an editor shows of a candidate. -/
structure Item where
  word : String
  abbr : String
  menu : String
  deriving DecidableEq, Repr, Inhabited

namespace Candidate

/-- A candidate of which nothing is known. -/
def empty : Candidate := ⟨"", "", none, "", "", "", ""⟩

/-- Whether a character list occurs in another without gaps. -/
def occursIn (part : List Char) : List Char → Bool
  | [] => part.isEmpty
  | c :: rest => part.isPrefixOf (c :: rest) || occursIn part rest

/-- Whether the candidate is a member of the superclass. -/
def isInherited (candidate : Candidate) : Bool :=
  occursIn "superclass".toList (Text.lowerCase candidate.contextTag).toList

/-- The text that a query is weighed against. -/
def label (candidate : Candidate) : String :=
  if candidate.descriptionKey = "" then candidate.sourceText else candidate.descriptionKey

/-- The item that an editor shows. -/
def render (candidate : Candidate) : Item :=
  ⟨candidate.sourceText, candidate.descriptionKey, candidate.moduleName.getD ""⟩

end Candidate

end CompletionServer
