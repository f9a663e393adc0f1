import CompletionServer.Proofs.Files.Walking
import Mathlib.Data.List.Nodup
import Mathlib.Data.List.Perm.Subperm

/-!
# Resolved paths

Resolving a path and walking along it are two ways to follow its links. A walk takes the links as
they come, up to a limit. Resolving opens each link once and remembers where it led, never gives up
because of a name that is not there, and must not open more links than the tree has. Where a walk
comes to an end, resolving comes to the same place.

The proof follows the rule for walks. A link that is open while it is met again would lead through
fewer links than itself, and each opened link is new, so that the bound on them is never reached.
-/

namespace CompletionServer.Files

namespace Tree

variable {tree : Tree} {here : Place}

/-! ## Single steps -/

/-- What becomes of a link that is neither open nor known, if some more may be opened. -/
def opening (tree : Tree) (here : Place) : (links : Nat) →
    Resolution → Spot → String → List Step → Spot × Bool
  | 0 => fun _ link _ rest => (appendNames true link rest, true)
  | links + 1 => fun state link target rest =>
    tree.resolveFrom here links
      { state with
        spot := if target.startsWith "/" then .root else state.spot
        opened := link :: state.opened }
      ((Path.slashParts target).map Step.name ++ .close link :: rest)

/-- Resolving with some links left is resolving in which these may be opened. -/
theorem resolveFrom_eq (links : Nat) :
    tree.resolveFrom here links = tree.resolveWith here (tree.opening here links) := by
  cases links <;> rfl

variable {links : Nat} {state : Resolution} {name : String} {rest : List Step}

/-- An empty name and a dot lead nowhere. -/
theorem resolveFrom_skip (skipped : name = "" ∨ name = ".") :
    tree.resolveFrom here links state (.name name :: rest) =
      tree.resolveFrom here links state rest := by
  rw [resolveFrom_eq, resolveWith, if_pos (by simpa using skipped)]

/-- Two dots lead one directory up. -/
theorem resolveFrom_up :
    tree.resolveFrom here links state (.name ".." :: rest) =
      tree.resolveFrom here links { state with spot := state.spot.up } rest := by
  rw [resolveFrom_eq, resolveWith, if_neg (by decide), if_pos rfl]

/-- At the end of a link's target the link is no longer open, and where it leads is known. -/
theorem resolveFrom_close {link : Spot} :
    tree.resolveFrom here links state (.close link :: rest) =
      tree.resolveFrom here links
        ⟨state.spot, state.opened.erase link, (link, state.spot) :: state.closed⟩ rest := by
  rw [resolveFrom_eq, resolveWith]

section Names

variable (nonempty : name ≠ "") (notHere : name ≠ ".") (notAbove : name ≠ "..")

include nonempty notHere notAbove

/-- A name that is no link leads down. -/
theorem resolveFrom_down
    (plain : ∀ target, tree.get? ((state.spot.down name).place here) ≠ some (.link target)) :
    tree.resolveFrom here links state (.name name :: rest) =
      tree.resolveFrom here links { state with spot := state.spot.down name } rest := by
  rw [resolveFrom_eq, resolveWith, if_neg (by simp [nonempty, notHere]), if_neg notAbove]
  dsimp only
  split
  · next target there => exact absurd there (plain target)
  · rfl

/-- A link that is known leads where it led before. -/
theorem resolveFrom_known {target : String} {pair : Spot × Spot}
    (there : tree.get? ((state.spot.down name).place here) = some (.link target))
    (known : state.closed.find? (·.1 == state.spot.down name) = some pair) :
    tree.resolveFrom here links state (.name name :: rest) =
      tree.resolveFrom here links { state with spot := pair.2 } rest := by
  rw [resolveFrom_eq, resolveWith, if_neg (by simp [nonempty, notHere]), if_neg notAbove]
  simp only [there, known]

/-- A link that is neither known nor open is opened, if one more may be. -/
theorem resolveFrom_open {target : String}
    (there : tree.get? ((state.spot.down name).place here) = some (.link target))
    (unknown : state.closed.find? (·.1 == state.spot.down name) = none)
    (unopened : state.spot.down name ∉ state.opened) :
    tree.resolveFrom here (links + 1) state (.name name :: rest) =
      tree.resolveFrom here links
        { state with
          spot := if target.startsWith "/" then .root else state.spot
          opened := state.spot.down name :: state.opened }
        ((Path.slashParts target).map Step.name ++ .close (state.spot.down name) :: rest) := by
  rw [resolveFrom_eq, resolveWith, if_neg (by simp [nonempty, notHere]), if_neg notAbove]
  simp only [there, unknown]
  rw [if_neg (by simpa using unopened)]
  rfl

end Names

/-! ## Sound states -/

/-- Where a place below the root is. -/
def spotAt (place : Place) : Spot := ⟨none, place⟩

/-- Above a place below the root is the place without its last name. -/
@[simp] theorem up_spotAt (place : Place) : (spotAt place).up = spotAt place.dropLast := by
  cases place <;> rfl

/-- Different places below the root are different spots. -/
@[simp] theorem spotAt_inj {place other : Place} : spotAt place = spotAt other ↔ place = other := by
  simp [spotAt]

/-- The link of a name in a directory leads to a place through some links. -/
def Follows (tree : Tree) (links : Nat) (link : Spot) (goal : Place) : Prop :=
  ∃ place name, link = spotAt (place ++ [name]) ∧ tree.Leads links place [name] goal

/-- A link leads to one place only, through one number of links. -/
theorem Follows.unique {other : Nat} {link : Spot} {goal end' : Place}
    (follows : tree.Follows links link goal) (again : tree.Follows other link end') :
    links = other ∧ goal = end' := by
  obtain ⟨place, name, rfl, leads⟩ := follows
  obtain ⟨place', name', same, leads'⟩ := again
  obtain ⟨rfl, last⟩ := List.append_inj' (spotAt_inj.mp same) rfl
  obtain rfl := (List.cons.inj last).1
  exact leads.unique leads'

/-- What is known about links is right, and no link is opened twice. -/
structure IsSound (tree : Tree) (opened : List Spot) (closed : List (Spot × Spot)) : Prop where
  distinct : (opened ++ closed.map (·.1)).Nodup
  linked : ∀ link ∈ opened ++ closed.map (·.1),
    ∃ place target, link = spotAt place ∧ tree.get? place = some (.link target)
  known : ∀ pair ∈ closed, ∃ links goal, pair.2 = spotAt goal ∧ tree.Follows links pair.1 goal

namespace IsSound

variable {opened : List Spot} {closed : List (Spot × Spot)} {place goal : Place}

/-- At the beginning nothing is known and nothing open, which is sound. -/
theorem start (tree : Tree) : tree.IsSound [] [] :=
  ⟨List.nodup_nil, by simp, by simp⟩

/-- No more links are opened than the tree has entries. -/
theorem length_le (sound : tree.IsSound opened closed) :
    opened.length + closed.length ≤ tree.entries.length := by
  have among : opened ++ closed.map (·.1) ⊆ tree.entries.map fun entry => spotAt entry.1 := by
    intro link member
    obtain ⟨place, target, rfl, there⟩ := sound.linked link member
    rw [get?] at there
    split at there
    · simp at there
    · obtain ⟨entry, found, -⟩ := Option.map_eq_some_iff.mp there
      have same : entry.1 = place := by simpa using List.find?_some found
      exact List.mem_map.mpr ⟨entry, List.mem_of_find?_eq_some found, congrArg spotAt same⟩
  have bounded := (List.subperm_of_subset sound.distinct among).length_le
  simpa using bounded

/-- A link that is neither known nor open may be opened. -/
theorem openLink (sound : tree.IsSound opened closed) {target : String}
    (there : tree.get? place = some (.link target)) (unopened : spotAt place ∉ opened)
    (unknown : closed.find? (·.1 == spotAt place) = none) :
    tree.IsSound (spotAt place :: opened) closed := by
  have fresh : spotAt place ∉ opened ++ closed.map (·.1) := by
    rw [List.mem_append, not_or]
    refine ⟨unopened, fun member => ?_⟩
    obtain ⟨pair, among, same⟩ := List.mem_map.mp member
    exact List.find?_eq_none.mp unknown pair among (by simp [same])
  exact ⟨List.nodup_cons.mpr ⟨fresh, sound.distinct⟩,
    List.forall_mem_cons.mpr ⟨⟨place, target, rfl, there⟩, sound.linked⟩, sound.known⟩

/-- A link that was opened may be closed with the place to which it leads. -/
theorem closeLink {link : Spot} (sound : tree.IsSound (link :: opened) closed)
    (follows : tree.Follows links link goal) :
    tree.IsSound opened ((link, spotAt goal) :: closed) := by
  have perm : (opened ++ link :: closed.map (·.1)).Perm (link :: opened ++ closed.map (·.1)) :=
    List.perm_middle
  refine ⟨perm.nodup_iff.mpr sound.distinct, ?_, ?_⟩
  · exact fun other member => sound.linked other (perm.mem_iff.mp member)
  · exact List.forall_mem_cons.mpr ⟨⟨links, goal, rfl, follows⟩, sound.known⟩

end IsSound

/-! ## Resolving along a walk -/

/-- A slash at the end of a link's target asks for a directory and leads nowhere else. -/
theorem Leads.of_stepsOf {place goal : Place} {target : String}
    (leads : tree.Leads links place (stepsOf target) goal) :
    tree.Leads links place ((Path.slashParts target).filter (· ≠ "")) goal := by
  rw [stepsOf] at leads
  split at leads
  · obtain ⟨first, second, middle, front, back, rfl⟩ := leads.split
    cases back with
    | stay _ _ goes =>
      cases goes with
      | done _ => exact front
    | up _ above => exact absurd above (by decide)
    | enter _ notHere => exact absurd rfl notHere
    | follow _ notHere => exact absurd rfl notHere
  · exact leads

/-- Resolving some steps from a place comes to a goal, with the same links open as before and the
same number of links closed or yet to be opened. -/
def ComesTo (tree : Tree) (here : Place) (fuel : Nat) (place : Place) (opened : List Spot)
    (closed : List (Spot × Spot)) (steps : List Step) (goal : Place) (rest : List Step) : Prop :=
  ∃ left known,
    tree.resolveFrom here fuel ⟨spotAt place, opened, closed⟩ steps =
      tree.resolveFrom here left ⟨spotAt goal, opened, known⟩ rest ∧
    tree.IsSound opened known ∧ left + known.length = fuel + closed.length

section Runs

variable {place middle goal : Place} {opened : List Spot} {closed : List (Spot × Spot)}
  {fuel : Nat} {steps between : List Step}

/-- Steps after others come to a goal from where the others come to. -/
theorem ComesTo.trans
    (first : tree.ComesTo here fuel place opened closed steps middle between)
    (second : ∀ left known, tree.IsSound opened known → left + known.length = fuel + closed.length →
      tree.ComesTo here left middle opened known between goal rest) :
    tree.ComesTo here fuel place opened closed steps goal rest := by
  obtain ⟨left, known, same, sound, count⟩ := first
  obtain ⟨left', known', same', sound', count'⟩ := second left known sound count
  exact ⟨left', known', same.trans same', sound', count'.trans count⟩

/-- A link that is not open comes to where it leads if the parts of its target do. -/
theorem comesTo_link {target : String} (nonempty : name ≠ "") (notHere : name ≠ ".")
    (notAbove : name ≠ "..") (there : tree.get? (place ++ [name]) = some (.link target))
    (follows : tree.Follows links (spotAt (place ++ [name])) goal)
    (sound : tree.IsSound opened closed) (unopened : spotAt (place ++ [name]) ∉ opened)
    (room : tree.entries.length < fuel + opened.length + closed.length)
    (inner : ∀ less steps, tree.IsSound (spotAt (place ++ [name]) :: opened) closed →
      fuel = less + 1 →
      tree.ComesTo here less (startOf place target) (spotAt (place ++ [name]) :: opened) closed
        ((Path.slashParts target).map Step.name ++ steps) goal steps) :
    tree.ComesTo here fuel place opened closed (.name name :: rest) goal rest := by
  cases found : closed.find? (·.1 == spotAt (place ++ [name])) with
  | some pair =>
    -- The link was closed before, and was remembered with the goal.
    obtain ⟨other, end', at', follows'⟩ := sound.known pair (List.mem_of_find?_eq_some found)
    have same : pair.1 = spotAt (place ++ [name]) := by simpa using List.find?_some found
    obtain ⟨-, rfl⟩ := (same ▸ follows').unique follows
    have step : tree.resolveFrom here fuel ⟨spotAt place, opened, closed⟩ (.name name :: rest) =
        tree.resolveFrom here fuel ⟨pair.2, opened, closed⟩ rest :=
      resolveFrom_known nonempty notHere notAbove there found
    exact ⟨fuel, closed, by rw [step, at'], sound, rfl⟩
  | none =>
    have inside := sound.openLink there unopened found
    cases fuel with
    | zero =>
      -- All links that the tree could have would be open or closed already.
      have bounded := inside.length_le
      rw [List.length_cons] at bounded
      omega
    | succ less =>
      have start : (if target.startsWith "/" then Spot.root else spotAt place) =
          spotAt (startOf place target) := by
        rw [startOf]
        split <;> rfl
      obtain ⟨left, known, same, sound', count⟩ :=
        inner less (.close (spotAt (place ++ [name])) :: rest) inside rfl
      refine ⟨left, (spotAt (place ++ [name]), spotAt goal) :: known, ?_,
        sound'.closeLink follows, ?_⟩
      · have step : tree.resolveFrom here (less + 1) ⟨spotAt place, opened, closed⟩
            (.name name :: rest) =
            tree.resolveFrom here less
              ⟨if target.startsWith "/" then .root else spotAt place,
                spotAt (place ++ [name]) :: opened, closed⟩
              ((Path.slashParts target).map Step.name ++
                .close (spotAt (place ++ [name])) :: rest) :=
          resolveFrom_open nonempty notHere notAbove there found unopened
        rw [step, start, same, resolveFrom_close, List.erase_cons_head]
      · rw [List.length_cons]
        omega

/-- Resolving parts that lead to a goal comes there. The links that are open lead through more links
than the parts do, so that none of them is met. -/
theorem comesTo_of_leads (bound : Nat) {parts : List String} (few : links ≤ bound)
    (leads : tree.Leads links place (parts.filter (· ≠ "")) goal)
    (sound : tree.IsSound opened closed)
    (apart : ∀ link ∈ opened, ∀ further end', tree.Follows further link end' → links < further)
    (room : tree.entries.length < fuel + opened.length + closed.length) :
    tree.ComesTo here fuel place opened closed (parts.map Step.name ++ rest) goal rest := by
  -- The outer induction is for targets of links, the inner one for the parts after a name.
  induction bound using Nat.strongRecOn
    generalizing links place goal parts opened closed fuel rest with
  | _ bound outer =>
    induction parts generalizing links place closed fuel with
    | nil =>
      cases leads with
      | done _ => exact ⟨fuel, closed, rfl, sound, rfl⟩
    | cons name more ih =>
      by_cases empty : name = ""
      · rw [List.filter_cons_of_neg (by simpa using empty)] at leads
        obtain ⟨left, known, same, later⟩ := ih few leads sound apart room
        exact ⟨left, known, (resolveFrom_skip (.inl empty)).trans same, later⟩
      · rw [List.filter_cons_of_pos (by simpa using empty)] at leads
        cases leads with
        | stay _ isHere goes =>
          obtain ⟨left, known, same, later⟩ := ih few goes sound apart room
          exact ⟨left, known, (resolveFrom_skip (.inr isHere)).trans same, later⟩
        | up _ above goes =>
          obtain ⟨left, known, same, later⟩ := ih few goes sound apart room
          refine ⟨left, known, ?_, later⟩
          rw [List.map_cons, List.cons_append, above, resolveFrom_up, up_spotAt, same]
        | enter _ notHere notAbove _ there plain goes =>
          obtain ⟨left, known, same, later⟩ := ih few goes sound apart room
          have unlinked (target : String) : tree.get? (place ++ [name]) ≠ some (.link target) :=
            fun linked => plain target (Option.some.inj (there.symm.trans linked))
          exact ⟨left, known,
            (resolveFrom_down empty notHere notAbove unlinked).trans same, later⟩
        | @follow links _ _ _ target _ within notHere notAbove short there goes =>
          obtain ⟨first, second, middle, front, back, sum⟩ := goes.split
          have follows : tree.Follows (first + 1) (spotAt (place ++ [name])) middle :=
            ⟨place, name, rfl, .follow within notHere notAbove short there
              (by rwa [List.append_nil])⟩
          have unopened : spotAt (place ++ [name]) ∉ opened := by
            intro member
            have := apart _ member _ _ follows
            omega
          refine ComesTo.trans (comesTo_link empty notHere notAbove there follows sound unopened
            room ?_) ?_
          · intro less steps inside own
            refine outer first (by omega) (Nat.le_refl first) front.of_stepsOf inside ?_ ?_
            · refine List.forall_mem_cons.mpr ⟨?_, ?_⟩
              · intro further end' again
                have := (follows.unique again).1
                omega
              · intro link member further end' again
                have := apart link member further end' again
                omega
            · rw [List.length_cons]
              omega
          · intro left known sound' count
            refine ih (by omega) back sound' ?_ (by omega)
            intro link member further end' again
            have := apart link member further end' again
            omega

end Runs

end Tree

/-- The bound on opened links allows for every entry of the tree. -/
theorem System.length_lt_openingBound (system : System) :
    system.tree.entries.length < system.openingBound := by
  have positive : 0 < system.here.length + 2 := by omega
  calc system.tree.entries.length
    _ < system.tree.entries.length + 1 := Nat.lt_succ_self _
    _ ≤ (system.tree.entries.length + 1) * (system.here.length + 2) :=
      Nat.le_mul_of_pos_right _ positive

/-- A walk along an absolute text that comes to an end follows the rule. -/
theorem System.leads_of_find {system : System} {text : String} {place : Place} {entry : Entry}
    (front : text.startsWith "/" = true) (found : system.find true text = .ok (place, entry)) :
    system.tree.get? place = some entry ∧
      ∃ links, system.tree.Leads links [] (stepsOf text) place := by
  rw [find, startOf, if_pos front] at found
  split_ifs at found
  exact Tree.leads_of_walk found

/-- Where a walk along an absolute path comes to an end, resolving the path comes to the same
place. -/
theorem System.resolve_of_find {system : System} {path : Path} {place : Place} {entry : Entry}
    (absolute : path.isAbsolute = true) (front : (toString path).startsWith "/" = true)
    (legal : hasNul (toString path) = false)
    (found : system.find true (toString path) = .ok (place, entry)) :
    system.resolve path = .ok (.absolute place) := by
  obtain ⟨-, links, leads⟩ := leads_of_find front found
  have parts : (stepsOf (toString path)).filter (· ≠ "") = stepsOf (toString path) :=
    List.filter_eq_self.mpr fun name member => by simpa using (of_mem_stepsOf member).1
  obtain ⟨left, closed, same, -⟩ : system.tree.ComesTo system.here system.openingBound
      [] [] [] ((stepsOf (toString path)).map Step.name ++ []) place [] :=
    Tree.comesTo_of_leads links (Nat.le_refl links) (parts.symm ▸ leads) (.start _) (by simp)
      system.length_lt_openingBound
  have resolved : system.tree.resolveFrom system.here system.openingBound ⟨.root, [], []⟩
      ((stepsOf (toString path)).map Step.name) = (Tree.spotAt place, false) := by
    rw [List.append_nil, Tree.resolveFrom_eq left, Tree.resolveWith] at same
    exact same
  rw [resolve, legal]
  simp only [absolute, if_true, resolved]
  rfl

/-- Resolving gives an absolute path. -/
theorem System.exists_absolute_of_resolve {system : System} {path resolved : Path}
    (done : system.resolve path = .ok resolved) : ∃ place, resolved = .absolute place := by
  rw [resolve] at done
  dsimp only at done
  generalize system.tree.resolveFrom _ _ _ _ = outcome at done
  split_ifs at done
  exact ⟨_, (Except.ok.inj done).symm⟩

end CompletionServer.Files
