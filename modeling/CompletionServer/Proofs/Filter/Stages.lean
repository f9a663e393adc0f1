import CompletionServer.Filter.Pipeline
import Mathlib.Data.List.DropRight

/-!
# The stages of filtering, each in one expression

Without workers every stage is a plain operation on lists: matching and weighing keep the candidates
that pass a test, grouping takes the candidates of one bucket after those of another, and of the
inherited candidates the last ones are picked. `Pipeline.apply` is then the stages one after the
other, with nothing special about an empty list. With workers it fails only if its parts have no
length or the workers were sent home.
-/

namespace CompletionServer.Filter

/-! ## Tests that do not fail -/

/-- A test that never fails keeps the items that pass it. -/
theorem serial_ok {α : Type} (passes : α → Bool) (items : List α) :
    serial (fun item => .ok (passes item)) items = .ok (items.filter passes) := by
  induction items with
  | nil => rfl
  | cons item rest ih =>
    rw [serial, ih, List.filter_cons]
    rfl

/-- Without workers a test that never fails keeps the items that pass it, whatever a part holds. -/
theorem ordered_absent_ok {α : Type} (length : Int) (passes : α → Bool) (items : List α) :
    ordered .absent length (fun item => .ok (passes item)) items = .ok (items.filter passes) := by
  rw [ordered, if_pos (by simp), serial_ok]

/-- Parts that are filtered by a test that never fails give a result. -/
theorem inParts_ok {α : Type} (passes : α → Bool) (parts : List (List α)) :
    inParts (fun item => .ok (passes item)) parts =
      .ok (parts.map (List.filter passes)).flatten := by
  have each : serial (fun item : α => .ok (passes item)) =
      fun items => pure (items.filter passes) := funext fun items => serial_ok passes items
  rw [inParts, each, List.mapM_pure]
  rfl

/-- Filtering by a test that never fails fails only if parts are to have no length or the workers
were sent home. -/
theorem ordered_eq_error {α : Type} {pool : Pool} {length : Int} {passes : α → Bool}
    {items : List α} {fault : Fault}
    (fails : ordered pool length (fun item => .ok (passes item)) items = .error fault) :
    (length = 0 ∧ fault = .emptyPart) ∨ (pool = .closed ∧ fault = .poolClosed) := by
  rw [ordered, serial_ok, inParts_ok] at fails
  split at fails
  · contradiction
  · split at fails
    · next empty => exact .inl ⟨empty, (Except.error.inj fails).symm⟩
    · split at fails
      · contradiction
      · split at fails
        · next closed => exact .inr ⟨closed, (Except.error.inj fails).symm⟩
        · contradiction

/-! ## The relation -/

/-- What is picked from the end is the front of the reversed list's inherited candidates, put in
order before what was picked already. -/
theorem pickInherited_eq (room : Nat) (reversed picked : List Candidate) :
    pickInherited room reversed picked =
      ((reversed.filter Candidate.isInherited).take room).reverse ++ picked := by
  induction reversed generalizing room picked with
  | nil => cases room <;> simp [pickInherited]
  | cons candidate rest ih =>
    cases room with
    | zero => simp [pickInherited]
    | succ room =>
      rw [pickInherited]
      by_cases inherited : candidate.isInherited = true
      · rw [if_pos inherited, ih, List.filter_cons_of_pos inherited]
        simp
      · rw [if_neg inherited, ih, List.filter_cons_of_neg inherited]

/-- A request about the superclass gets the last of the inherited candidates. -/
theorem byRelation_superClass (limit : Int) (candidates : List Candidate) :
    byRelation .superClass limit candidates =
      (candidates.filter Candidate.isInherited).rtake limit.toNat := by
  rw [byRelation, pickInherited_eq, List.append_nil, List.filter_reverse,
    List.rtake_eq_reverse_take_reverse]

/-! ## Grouping -/

namespace Categories

variable (categories : Categories) (candidates : List Candidate)

/-- The candidates that lie in a bucket. -/
def members (number : Nat) : List Candidate :=
  candidates.filter fun candidate => categories.bucket candidate == number

/-- A candidate that is dealt lies behind what was in its bucket, and the other buckets are as they
were. -/
theorem getElem?_deal (buckets : List (List Candidate)) (candidate : Candidate) (number : Nat) :
    (categories.deal buckets candidate)[number]? =
      buckets[number]?.map (· ++ categories.members [candidate] number) := by
  rw [deal, List.getElem?_modify, members, List.filter_singleton]
  by_cases own : categories.bucket candidate = number
  · simp [own]
  · simp [own, beq_eq_false_iff_ne.mpr own]

/-- Candidates that are dealt lie behind what was in their buckets, in the order in which they
came. -/
theorem getElem?_foldl_deal (buckets : List (List Candidate)) (number : Nat) :
    (candidates.foldl categories.deal buckets)[number]? =
      buckets[number]?.map (· ++ categories.members candidates number) := by
  induction candidates generalizing buckets with
  | nil => simp [members]
  | cons candidate rest ih =>
    have together : categories.members (candidate :: rest) number =
        categories.members [candidate] number ++ categories.members rest number :=
      List.filter_append [candidate] rest
    rw [List.foldl_cons, ih, getElem?_deal, Option.map_map, together]
    simp [Function.comp_def]

/-- Every bucket that candidates were dealt into has its own candidates. -/
theorem dealt_eq_map :
    categories.dealt candidates =
      (List.range (categories.last + 1)).map (categories.members candidates) := by
  apply List.ext_getElem?
  intro number
  rw [dealt, getElem?_foldl_deal, List.getElem?_map, List.getElem?_replicate]
  by_cases there : number < categories.last + 1
  · simp [there]
  · simp [there]

/-- The groups are the candidates of each bucket, bucket after bucket. -/
theorem group_eq_flatMap :
    categories.group candidates =
      (List.range (categories.last + 1)).flatMap (categories.members candidates) := by
  rw [group, dealt_eq_map, List.flatMap_def]

end Categories

/-! ## All stages -/

/-- What the first stage leaves, without workers. -/
def selected (categories : Categories) (front : String) (candidates : List Candidate) :
    List Candidate :=
  if front = "" then categories.group candidates
  else candidates.filter fun candidate => front.toList.isPrefixOf candidate.sourceText.toList

/-- Whether a candidate is heavy enough for a query. Without a query or a matcher all are. -/
def isHeavy (matcher : Option (String → String → Float)) (threshold : Float) (query : String)
    (candidate : Candidate) : Bool :=
  query = "" || matcher.all fun weigh => weigh query candidate.label > threshold

/-- Without a query nothing is weighed. -/
theorem filter_isHeavy_empty (matcher : Option (String → String → Float)) (threshold : Float)
    (candidates : List Candidate) :
    candidates.filter (isHeavy matcher threshold "") = candidates :=
  List.filter_eq_self.mpr fun _ _ => rfl

/-- Without a matcher nothing is weighed. -/
theorem filter_isHeavy_none (threshold : Float) (query : String) (candidates : List Candidate) :
    candidates.filter (isHeavy none threshold query) = candidates :=
  List.filter_eq_self.mpr fun _ _ => Bool.or_true _

/-- With a query and a matcher the weight decides. -/
theorem isHeavy_typed {query : String} (typed : query ≠ "") (weigh : String → String → Float)
    (threshold : Float) :
    isHeavy (some weigh) threshold query =
      fun candidate => decide (weigh query candidate.label > threshold) := by
  funext candidate
  simp [isHeavy, typed]

/-- With a query and a matcher, and without workers, the heavy candidates are kept. -/
theorem byWeight_absent {query : String} (typed : query ≠ "") (length : Int)
    (weigh : String → String → Float) (threshold : Float) (candidates : List Candidate) :
    byWeight .absent length weigh threshold query candidates =
      .ok (candidates.filter (isHeavy (some weigh) threshold query)) := by
  rw [isHeavy_typed typed]
  exact ordered_absent_ok length _ candidates

/-- Nothing is selected of no candidates. -/
theorem selected_nil (categories : Categories) (front : String) :
    selected categories front [] = [] := by
  simp [selected, Categories.group_eq_flatMap, Categories.members]

/-- No candidate is of any relation if there is none. -/
theorem byRelation_nil (relation : Relation) (limit : Int) : byRelation relation limit [] = [] := by
  cases relation with
  | thisClass => rfl
  | superClass => rw [byRelation_superClass, List.filter_nil, List.rtake_nil]

/-- Without workers the pipeline is its stages one after the other, and it does not fail. -/
theorem apply_absent (options : Options) (matcher : Option (String → String → Float))
    (candidates : List Candidate) (request : Request) (projectModule : String) :
    Pipeline.apply ⟨options, matcher, .absent⟩ candidates request projectModule =
      .ok (((byRelation request.relation options.scanLimit
        (selected ⟨projectModule, options.markers, request.sessionPrefix⟩ request.prefixText
          candidates)).filter
        (isHeavy matcher options.threshold request.prefixText)).map Candidate.render) := by
  cases candidates with
  | nil =>
    rw [selected_nil, byRelation_nil]
    rfl
  | cons first rest =>
    by_cases typed : request.prefixText = ""
    · rw [typed, filter_isHeavy_empty, selected, if_pos rfl]
      simp only [Pipeline.apply, typed, ne_eq, not_true_eq_false, if_false]
      cases matcher <;> rfl
    · have matched := ordered_absent_ok options.partLength (fun candidate : Candidate =>
        request.prefixText.toList.isPrefixOf candidate.sourceText.toList) (first :: rest)
      rw [selected, if_neg typed]
      cases matcher with
      | none =>
        rw [filter_isHeavy_none]
        simp only [Pipeline.apply, ne_eq, typed, not_false_eq_true, if_true, byPrefix, matched]
        rfl
      | some weigh =>
        simp only [Pipeline.apply, ne_eq, typed, not_false_eq_true, if_true, byPrefix, matched,
          byWeight_absent typed]
        rfl

/-- A pipeline fails only if its parts have no length or its workers were sent home. -/
theorem Pipeline.apply_eq_error {pipeline : Pipeline} {candidates : List Candidate}
    {request : Request} {projectModule : String} {fault : Fault}
    (fails : pipeline.apply candidates request projectModule = .error fault) :
    (pipeline.options.partLength = 0 ∧ fault = .emptyPart) ∨
      (pipeline.pool = .closed ∧ fault = .poolClosed) := by
  cases candidates with
  | nil => contradiction
  | cons first rest =>
    by_cases typed : request.prefixText = ""
    · simp only [apply, typed, ne_eq, not_true_eq_false, if_false] at fails
      cases matcher : pipeline.matcher <;> simp only [matcher] at fails <;> contradiction
    · simp only [apply, List.isEmpty_cons, Bool.false_eq_true, if_false, ne_eq, typed,
        not_false_eq_true, if_true, bind, Except.bind] at fails
      split at fails
      · next other matched =>
        obtain rfl : other = fault := Except.error.inj fails
        exact ordered_eq_error matched
      · next selected matched =>
        cases matcher : pipeline.matcher with
        | none =>
          simp only [matcher] at fails
          contradiction
        | some weigh =>
          simp only [matcher] at fails
          split at fails
          · next other weighed =>
            obtain rfl : other = fault := Except.error.inj fails
            exact ordered_eq_error weighed
          · contradiction

end CompletionServer.Filter
