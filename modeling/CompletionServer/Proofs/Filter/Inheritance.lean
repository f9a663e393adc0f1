import CompletionServer.Proofs.Filter.Stages
import Mathlib.Data.List.Infix

/-!
# Own and inherited candidates make up the list

The candidates about a class itself are those that are not inherited, and those about its superclass
are the last of the inherited ones, as many as the limit allows. If the limit allows for all of
them, every candidate is of one relation and not of the other, and the list is the two put together
with nothing moved. A larger limit only lets in earlier ones, and asking again changes nothing.
-/

namespace CompletionServer

/-- Characters occur in others if they stand there without gaps. -/
theorem Candidate.occursIn_iff (part text : List Char) :
    occursIn part text = true ↔ part <:+: text := by
  induction text with
  | nil => rw [occursIn, List.isEmpty_iff, List.infix_nil]
  | cons c rest ih =>
    rw [occursIn, Bool.or_eq_true, List.isPrefixOf_iff_prefix, ih, List.infix_cons_iff]

namespace Filter

/-! ## Lists put together -/

/-- A list is made of two others whose items stand among each other in their own order. -/
inductive Interleaves {α : Type} : List α → List α → List α → Prop
  | nil : Interleaves [] [] []
  | left {item : α} {first second whole : List α} (rest : Interleaves first second whole) :
      Interleaves (item :: first) second (item :: whole)
  | right {item : α} {first second whole : List α} (rest : Interleaves first second whole) :
      Interleaves first (item :: second) (item :: whole)

section Lists

variable {α : Type} (items : List α)

/-- A list is made of the items that do not pass a test and those that do. -/
theorem interleaves_filter (passes : α → Bool) :
    Interleaves (items.filter fun item => !passes item) (items.filter passes) items := by
  induction items with
  | nil => exact .nil
  | cons item rest ih =>
    cases tested : passes item with
    | true =>
      rw [List.filter_cons_of_neg (by simp [tested]), List.filter_cons_of_pos tested]
      exact .right ih
    | false =>
      rw [List.filter_cons_of_pos (by simp [tested]), List.filter_cons_of_neg (by simp [tested])]
      exact .left ih

/-- The last items are all of them if there are no more. -/
theorem rtake_of_length_le {room : Nat} (fits : items.length ≤ room) :
    items.rtake room = items := by
  rw [List.rtake, Nat.sub_eq_zero_of_le fits, List.drop_zero]

/-- There are no more last items than asked for. -/
theorem length_rtake_le (room : Nat) : (items.rtake room).length ≤ room := by
  rw [List.rtake, List.length_drop]
  omega

/-- More of the last items are the same ones with others before them. -/
theorem rtake_suffix_rtake {room more : Nat} (grows : room ≤ more) :
    items.rtake room <:+ items.rtake more :=
  List.drop_suffix_drop_left items (Nat.sub_le_sub_left grows _)

end Lists

/-! ## Candidates of a relation -/

/-- A request about the superclass gets inherited candidates only. -/
theorem filter_byRelation_superClass (limit : Int) (candidates : List Candidate) :
    (byRelation .superClass limit candidates).filter Candidate.isInherited =
      byRelation .superClass limit candidates := by
  rw [byRelation_superClass, List.filter_eq_self]
  intro candidate member
  exact (List.mem_filter.mp (List.mem_of_mem_drop member)).2

/-- Asking for a relation again changes nothing. -/
theorem byRelation_byRelation (relation : Relation) (limit : Int) (candidates : List Candidate) :
    byRelation relation limit (byRelation relation limit candidates) =
      byRelation relation limit candidates := by
  cases relation with
  | thisClass => simp only [byRelation, List.filter_filter, Bool.and_self]
  | superClass =>
    have few : (byRelation .superClass limit candidates).length ≤ limit.toNat := by
      rw [byRelation_superClass]
      exact length_rtake_le _ _
    conv_lhs => rw [byRelation_superClass, filter_byRelation_superClass]
    exact rtake_of_length_le _ few

/-- Candidates about the superclass are all that are inherited, if the limit allows for them. -/
theorem byRelation_superClass_of_le {limit : Int} {candidates : List Candidate}
    (allows : (candidates.countP Candidate.isInherited : Int) ≤ limit) :
    byRelation .superClass limit candidates = candidates.filter Candidate.isInherited := by
  rw [byRelation_superClass]
  apply rtake_of_length_le
  rw [← List.countP_eq_length_filter]
  omega

/-- Own and inherited candidates make up the list. For every list of candidates and every limit:

- inherited are the candidates whose context, in small letters, names the superclass;
- those about the superclass are the last of the inherited ones, as many as the limit says, and none
  for a negative one; those about the class itself are the ones that are not inherited;
- if the limit is not below the number of inherited candidates, every candidate is in exactly one of
  the two results, and the list is made of them with nothing moved;
- as the limit grows, those about the superclass grow at their front only;
- asking for a relation again, with the same limit, changes nothing. -/
theorem relations_make_up_list (candidates : List Candidate) (limit : Int) :
    (∀ candidate : Candidate, candidate.isInherited = true ↔
      "superclass".toList <:+: (Text.lowerCase candidate.contextTag).toList) ∧
    byRelation .superClass limit candidates =
      (candidates.filter Candidate.isInherited).rtake (max 0 limit).toNat ∧
    byRelation .thisClass limit candidates =
      candidates.filter (fun candidate => !candidate.isInherited) ∧
    ((candidates.countP Candidate.isInherited : Int) ≤ limit →
      (∀ candidate ∈ candidates,
        (candidate ∈ byRelation .thisClass limit candidates ↔
          candidate ∉ byRelation .superClass limit candidates)) ∧
      Interleaves (byRelation .thisClass limit candidates)
        (byRelation .superClass limit candidates) candidates) ∧
    (∀ more, limit ≤ more →
      byRelation .superClass limit candidates <:+ byRelation .superClass more candidates) ∧
    ∀ relation, byRelation relation limit (byRelation relation limit candidates) =
      byRelation relation limit candidates := by
  have room : (max 0 limit).toNat = limit.toNat := by omega
  refine ⟨fun candidate => Candidate.occursIn_iff _ _, ?_, rfl, ?_, ?_,
    fun relation => byRelation_byRelation relation limit candidates⟩
  · rw [byRelation_superClass, room]
  · intro allows
    rw [byRelation_superClass_of_le allows, byRelation]
    refine ⟨?_, interleaves_filter candidates Candidate.isInherited⟩
    intro candidate member
    simp [member]
  · intro more grows
    rw [byRelation_superClass, byRelation_superClass]
    exact rtake_suffix_rtake _ (Int.toNat_le_toNat grows)

/-- An own candidate between two that are inherited. -/
def ownBetweenInherited : List Candidate :=
  [{ Candidate.empty with sourceText := "first", contextTag := "context.superclass" },
    { Candidate.empty with sourceText := "own", contextTag := "context.thisclass" },
    { Candidate.empty with sourceText := "last", contextTag := "context.SuperClass" }]

/-- Two inherited candidates are within a limit of two, and the second is the one that a limit of
one leaves. -/
theorem relations_make_up_list_between :
    (ownBetweenInherited.countP Candidate.isInherited : Int) ≤ 2 ∧ (1 : Int) ≤ 2 ∧
      Interleaves (byRelation .thisClass 2 ownBetweenInherited)
        (byRelation .superClass 2 ownBetweenInherited) ownBetweenInherited ∧
      byRelation .superClass 1 ownBetweenInherited <:+
        byRelation .superClass 2 ownBetweenInherited ∧
      (byRelation .superClass 1 ownBetweenInherited).map Candidate.sourceText = ["last"] := by
  have allows : (ownBetweenInherited.countP Candidate.isInherited : Int) ≤ 2 := by decide
  have grows : (1 : Int) ≤ 2 := by decide
  obtain ⟨_, _, _, whole, _⟩ := relations_make_up_list ownBetweenInherited 2
  obtain ⟨_, _, _, _, front, _⟩ := relations_make_up_list ownBetweenInherited 1
  exact ⟨allows, grows, (whole allows).2, front 2 grows, by decide⟩

end Filter

end CompletionServer
