import CompletionServer.Candidate
import CompletionServer.Request.Basic

/-!
# Own and inherited candidates

A request about a class itself gets the candidates that are not inherited; one about its superclass
gets inherited ones, at most a given number of them, the last ones.
-/

namespace CompletionServer.Filter

/-- Inherited candidates picked from the end, at most `room` of them; gives them in order. -/
def pickInherited : (room : Nat) → (reversed : List Candidate) → (picked : List Candidate) →
    List Candidate
  | 0, _, picked => picked
  | _ + 1, [], picked => picked
  | room + 1, candidate :: rest, picked =>
    if candidate.isInherited then pickInherited room rest (candidate :: picked)
    else pickInherited (room + 1) rest picked

/-- The candidates of a relation. A negative limit counts as zero. -/
def byRelation (relation : Relation) (limit : Int) (candidates : List Candidate) :
    List Candidate :=
  match relation with
  | .thisClass => candidates.filter fun candidate => !candidate.isInherited
  | .superClass => pickInherited limit.toNat candidates.reverse []

end CompletionServer.Filter
