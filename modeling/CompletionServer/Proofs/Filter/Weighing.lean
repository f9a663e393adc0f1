import CompletionServer.Proofs.Filter.Workers
import CompletionServer.Proofs.Fuzzy.Weight
import CompletionServer.Proofs.Outcome

/-!
# What weighing drops

Weighing is the last stage of filtering. It goes through fewer candidates than the first stage has
gone through, so it does not fail where that one did not, with workers or without. What it drops has
no weight above the threshold; and since a label that begins with the query has the weight one, no
threshold below one drops it.
-/

namespace CompletionServer

/-- The label of an item, as that of the candidate it shows. -/
def Item.label (item : Item) : String :=
  if item.abbr = "" then item.word else item.abbr

/-- An item has the label of its candidate. -/
theorem Candidate.label_render (candidate : Candidate) :
    candidate.render.label = candidate.label :=
  rfl

namespace Filter

/-! ## The last stage -/

/-- Where a first filter gave a result, a later one that goes through no more items gives one too:
the items that pass. -/
theorem ordered_of_ordered {α : Type} {pool : Pool} {length : Int} {first later : α → Bool}
    {items kept fewer : List α}
    (keeps : ordered pool length (fun item => .ok (first item)) items = .ok kept)
    (few : fewer.length ≤ kept.length) :
    ordered pool length (fun item => .ok (later item)) fewer = .ok (fewer.filter later) := by
  rw [ordered, serial_ok, inParts_ok] at keeps
  split at keeps
  · -- One pass: the later items fit into one pass as well.
    next onePass =>
    obtain rfl := Except.ok.inj keeps
    have shrinks := List.length_filter_le first items
    have again : (pool = .absent || (fewer.length : Int) ≤ length) = true := by
      simp only [Bool.or_eq_true, decide_eq_true_eq] at onePass ⊢
      rcases onePass with absent | fits
      · exact .inl absent
      · right
        omega
    rw [ordered, if_pos again, serial_ok]
  · next many =>
    split at keeps
    · contradiction
    · next some =>
      split at keeps
      · -- Parts of a negative length: nothing was kept, so nothing is left to go through.
        next negative =>
        obtain rfl := Except.ok.inj keeps
        obtain rfl := List.eq_nil_of_length_eq_zero (Nat.le_zero.mp few)
        rw [ordered, if_neg some, if_pos negative, serial_ok, List.filter_nil, ite_self]
      · split at keeps
        · contradiction
        · next opened =>
          have working : pool = .working := by
            cases pool with
            | absent => simp at many
            | working => rfl
            | closed => exact absurd rfl opened
          rw [working, ordered_working (by omega), serial_ok]

/-- No more candidates are of a relation than there are. -/
theorem length_byRelation_le (relation : Relation) (limit : Int) (candidates : List Candidate) :
    (byRelation relation limit candidates).length ≤ candidates.length := by
  cases relation with
  | thisClass => exact List.length_filter_le _ candidates
  | superClass =>
    rw [byRelation_superClass, List.rtake, List.length_drop]
    have shrinks := List.length_filter_le Candidate.isInherited candidates
    omega

/-- A pipeline with a matcher keeps, of the candidates that it keeps without one, those that are
heavy enough. It fails only where it fails without. -/
theorem Pipeline.apply_weighed {options : Options} {pool : Pool} {candidates : List Candidate}
    {request : Request} {projectModule : String} {items : List Item}
    (unweighed : apply ⟨options, none, pool⟩ candidates request projectModule = .ok items) :
    ∃ related : List Candidate, items = related.map Candidate.render ∧
      ∀ weigh, apply ⟨options, some weigh, pool⟩ candidates request projectModule =
        .ok ((related.filter
          (isHeavy (some weigh) options.threshold request.prefixText)).map Candidate.render) := by
  cases candidates with
  | nil => exact ⟨[], (Except.ok.inj unweighed).symm, fun _ => rfl⟩
  | cons candidate others =>
    by_cases typed : request.prefixText = ""
    · simp only [apply, typed, ne_eq, not_true_eq_false, if_false] at unweighed ⊢
      refine ⟨_, (Except.ok.inj unweighed).symm, fun weigh => ?_⟩
      rw [filter_isHeavy_empty]
      rfl
    · simp only [apply, List.isEmpty_cons, Bool.false_eq_true, if_false, ne_eq, typed,
        not_false_eq_true, if_true] at unweighed ⊢
      obtain ⟨selected, matched, shown⟩ := Outcome.bind_eq_ok_iff.mp unweighed
      refine ⟨_, (Except.ok.inj shown).symm, fun weigh => ?_⟩
      have weighed : byWeight pool options.partLength weigh options.threshold request.prefixText
          (byRelation request.relation options.scanLimit selected) =
          .ok ((byRelation request.relation options.scanLimit selected).filter
            (isHeavy (some weigh) options.threshold request.prefixText)) := by
        rw [isHeavy_typed typed]
        exact ordered_of_ordered matched (length_byRelation_le _ _ selected)
      rw [matched, Outcome.ok_bind, weighed]
      rfl

/-! ## Labels that begin with the query -/

/-- Whether an item's label begins with a query, case not being looked at if the query is in lower
case. -/
def beginsWith (query : String) (item : Item) : Bool :=
  query.toList.isPrefixOf (Fuzzy.haystack query item.label).toList

/-- A candidate whose label begins with the query is heavy enough for every threshold below one. -/
theorem isHeavy_of_beginsWith {threshold : Float} (below : threshold < 1.0) {query : String}
    {candidate : Candidate} (begins : beginsWith query candidate.render = true) :
    isHeavy (some Fuzzy.weight) threshold query candidate = true := by
  by_cases typed : query = ""
  · rw [typed]
    rfl
  · have full : Fuzzy.weight query candidate.label = 1.0 := by
      rw [← candidate.label_render]
      exact Fuzzy.weight_of_prefix typed (List.isPrefixOf_iff_prefix.mp begins)
    rw [isHeavy_typed typed]
    show decide (threshold < Fuzzy.weight query candidate.label) = true
    rw [full]
    exact decide_eq_true below

/-- For every query that is not empty and every text, the exact score is zero exactly if the text is
empty or the query does not occur in it in order. Else it is positive and at most one, at least
three tenths if the text begins with the query's first character, and one exactly if it begins with
the query. In all this the text is taken in lower case if the query is in lower case.

So by weighing no pipeline with a threshold below one loses an item whose label begins with the
query: if it gives items without a matcher, then with one it gives some of them in their order,
among them all of those. -/
theorem weights_grade_matches :
    (∀ query text : String, query ≠ "" →
      (Fuzzy.exactScore query text = 0 ↔
        text = "" ∨ ¬ query.toList.Sublist (Fuzzy.haystack query text).toList) ∧
      (text ≠ "" → query.toList.Sublist (Fuzzy.haystack query text).toList →
        0 < Fuzzy.exactScore query text ∧ Fuzzy.exactScore query text ≤ 1 ∧
        ((Fuzzy.haystack query text).toList.head? = query.toList.head? →
          3 / 10 ≤ Fuzzy.exactScore query text) ∧
        (Fuzzy.exactScore query text = 1 ↔ query.toList <+: (Fuzzy.haystack query text).toList))) ∧
    ∀ (options : Options) (pool : Pool) (candidates : List Candidate) (request : Request)
      (projectModule : String) (items : List Item), options.threshold < 1.0 →
      Pipeline.apply ⟨options, none, pool⟩ candidates request projectModule = .ok items →
      ∃ kept,
        Pipeline.apply ⟨options, some Fuzzy.weight, pool⟩ candidates request projectModule =
          .ok kept ∧
        kept.Sublist items ∧
        kept.filter (beginsWith request.prefixText) =
          items.filter (beginsWith request.prefixText) := by
  constructor
  · intro query text nonempty
    obtain ⟨c, rest, typed⟩ := List.exists_cons_of_ne_nil (mt String.toList_eq_nil_iff.mp nonempty)
    rw [typed]
    by_cases occurs : (c :: rest).Sublist (Fuzzy.haystack query text).toList
    · obtain ⟨window⟩ := Fuzzy.Window.nonempty_iff.mpr occurs
      have filled := Fuzzy.ne_empty_of_window window
      have scored : Fuzzy.exactScore query text = window.found.exact :=
        Fuzzy.weightBy_of_window typed window
      have positive := window.found.exact_pos
      rw [scored]
      refine ⟨?_, fun _ _ => ⟨positive, Fuzzy.Match.exact_le_one window.covered_le,
        window.three_tenths_le, window.exact_eq_one_iff⟩⟩
      constructor
      · intro zero
        exact absurd zero positive.ne'
      · rintro (empty | absent)
        · exact absurd empty filled
        · exact absurd occurs absent
    · have scored : Fuzzy.exactScore query text = 0.0 := Fuzzy.weightBy_of_absent typed occurs
      have zero : Fuzzy.exactScore query text = 0 := scored.trans (by norm_num)
      exact ⟨⟨fun _ => .inr occurs, fun _ => zero⟩, fun _ found => absurd found occurs⟩
  · intro options pool candidates request projectModule items below unweighed
    obtain ⟨related, rfl, weighed⟩ := Pipeline.apply_weighed unweighed
    refine ⟨_, weighed Fuzzy.weight, List.filter_sublist.map _, ?_⟩
    rw [List.filter_map, List.filter_map, List.filter_filter]
    congr 1
    apply List.filter_congr
    intro candidate _
    cases begins : beginsWith request.prefixText candidate.render with
    | false => simp [begins]
    | true => simp [begins, isHeavy_of_beginsWith below begins]

/-- A candidate whose label does not begin as its text does. -/
def vivid : Candidate :=
  { Candidate.empty with sourceText := "vivid", descriptionKey := "a vivid one" }

/-- A candidate whose label does, but for case. -/
def viewer : Candidate :=
  { Candidate.empty with sourceText := "view", descriptionKey := "Viewer" }

/-- Of a front the score is one, of a gap it is less, and against the order it is zero. A threshold
of nine tenths keeps the label that begins with what was typed. -/
theorem weights_grade_matches_view :
    Fuzzy.exactScore "vi" "View" = 1 ∧
    (3 / 10 ≤ Fuzzy.exactScore "vw" "View" ∧ Fuzzy.exactScore "vw" "View" ≠ 1) ∧
    Fuzzy.exactScore "iv" "View" = 0 ∧
    ∃ kept, Pipeline.apply ⟨{ Options.standard with threshold := 0.9 }, some Fuzzy.weight, .absent⟩
        [vivid, viewer] { (default : Request) with prefixText := "vi" } "App" = .ok kept ∧
      kept.Sublist [vivid.render, viewer.render] ∧ viewer.render ∈ kept := by
  refine ⟨?_, ?_, ?_, ?_⟩
  · have graded := weights_grade_matches.1 "vi" "View" (by decide)
    exact (graded.2 (by decide) (by decide +kernel)).2.2.2.mpr (by decide +kernel)
  · have graded := weights_grade_matches.1 "vw" "View" (by decide)
    have gapped := graded.2 (by decide) (by decide +kernel)
    exact ⟨gapped.2.2.1 (by decide +kernel), mt gapped.2.2.2.mp (by decide +kernel)⟩
  · exact (weights_grade_matches.1 "iv" "View" (by decide)).1.mpr (.inr (by decide +kernel))
  · have unweighed : (Pipeline.apply ⟨{ Options.standard with threshold := 0.9 }, none, .absent⟩
        [vivid, viewer] { (default : Request) with prefixText := "vi" } "App").toOption =
        some [vivid.render, viewer.render] := by
      decide +kernel
    obtain ⟨kept, weighed, part, same⟩ := weights_grade_matches.2 _ _ _ _ _ _ (by decide)
      (Outcome.eq_ok_of_toOption unweighed)
    have fronts : [vivid.render, viewer.render].filter (beginsWith "vi") = [viewer.render] := by
      decide +kernel
    refine ⟨kept, weighed, part, List.mem_of_mem_filter (p := beginsWith "vi") ?_⟩
    rw [same.trans fronts]
    exact List.mem_singleton_self _

end Filter

end CompletionServer
