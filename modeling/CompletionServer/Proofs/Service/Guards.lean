import CompletionServer.Service.Basic
import Mathlib.Data.List.Nodup

/-!
# Guards and the calls that they serve

The guards are three tables that calls write when they come, when they take their lock and when they
go. `Guards.Serves` ties the tables to the calls in flight: a signature has a lock and a count
exactly while calls are on it, the count is their number, all of them have its lock, and the lock is
held by the one of them that does not wait. Each of the four things that calls do keeps this, and a
call can always go: the tables never lack what its leaving removes.
-/

namespace CompletionServer.Service

/-- A call has its lock and has looked into the cache. -/
def Call.Works (call : Call) : Prop := call.phase ≠ .waiting

/-- How many of some calls are on a signature. -/
def usersOf (calls : List Call) (signature : String) : Nat :=
  (calls.map (·.signature)).count signature

/-- Some calls on a signature are there exactly when one of them is. -/
theorem usersOf_pos_iff {calls : List Call} {signature : String} :
    0 < usersOf calls signature ↔ ∃ call ∈ calls, call.signature = signature := by
  rw [usersOf, List.count_pos_iff, List.mem_map]

/-- A call is a user of its signature. -/
theorem usersOf_pos_of_mem {calls : List Call} {call : Call} (member : call ∈ calls) :
    0 < usersOf calls call.signature :=
  usersOf_pos_iff.mpr ⟨call, member, rfl⟩

/-- One more call is one more user of its signature. -/
theorem usersOf_append_singleton (calls : List Call) (call : Call) (signature : String) :
    usersOf (calls ++ [call]) signature =
      usersOf calls signature + if call.signature = signature then 1 else 0 := by
  simp [usersOf, List.count_cons]

/-! ## Calls told apart by their numbers -/

/-- Calls with different numbers are the same call when their numbers agree. -/
theorem eq_of_number_eq {calls : List Call} (numbers : (calls.map (·.number)).Nodup)
    {call other : Call} (member : call ∈ calls) (otherMember : other ∈ calls)
    (same : call.number = other.number) : call = other :=
  List.inj_on_of_nodup_map numbers member otherMember same

/-- Calls are one of them and the calls with other numbers. -/
theorem perm_cons_filter {calls : List Call} (numbers : (calls.map (·.number)).Nodup)
    {call : Call} (member : call ∈ calls) :
    calls.Perm (call :: calls.filter (·.number ≠ call.number)) := by
  induction calls with
  | nil => cases member
  | cons first rest ih =>
    rw [List.map_cons, List.nodup_cons] at numbers
    obtain ⟨absent, distinct⟩ := numbers
    have differs {other : Call} (inRest : other ∈ rest) : other.number ≠ first.number :=
      fun same => absent (same ▸ List.mem_map_of_mem inRest)
    rcases List.mem_cons.mp member with rfl | inRest
    · have all : rest.filter (·.number ≠ call.number) = rest :=
        List.filter_eq_self.mpr fun other inRest => by simpa using differs inRest
      rw [List.filter_cons_of_neg (by simp), all]
    · rw [List.filter_cons_of_pos (by simpa using (differs inRest).symm)]
      exact ((ih distinct inRest).cons first).trans (.swap call first _)

/-- Without a call its signature has one user fewer, and any other as many as before. -/
theorem usersOf_filter {calls : List Call} (numbers : (calls.map (·.number)).Nodup)
    {call : Call} (member : call ∈ calls) (signature : String) :
    usersOf calls signature =
      usersOf (calls.filter (·.number ≠ call.number)) signature +
        if call.signature = signature then 1 else 0 := by
  have counts := ((perm_cons_filter numbers member).map (·.signature)).count_eq signature
  rw [List.map_cons, List.count_cons] at counts
  simpa [usersOf] using counts

/-! ## A call put in another's place -/

/-- What the guards know of a call. -/
def Call.place (call : Call) : CallNumber × String × LockNumber :=
  (call.number, call.signature, call.lock)

/-- Some calls, with a call put in place of the one with its number. -/
def replaced (calls : List Call) (call : Call) : List Call :=
  calls.map fun other => if other.number = call.number then call else other

/-- After a replacement there are the new call and the calls with other numbers. -/
theorem mem_replaced {calls : List Call} {old new : Call} (member : old ∈ calls)
    (same : new.number = old.number) {call : Call} :
    call ∈ replaced calls new ↔ call = new ∨ (call ∈ calls ∧ call.number ≠ new.number) := by
  rw [replaced, List.mem_map]
  constructor
  · rintro ⟨other, inCalls, rfl⟩
    by_cases here : other.number = new.number
    · exact .inl (by simp [here])
    · exact .inr (by simp [here, inCalls])
  · rintro (rfl | ⟨inCalls, differs⟩)
    · exact ⟨old, member, by simp [same]⟩
    · exact ⟨call, inCalls, by simp [differs]⟩

/-- A call that replaces another is there. -/
theorem self_mem_replaced {calls : List Call} {old : Call} (member : old ∈ calls) (new : Call)
    (same : new.number = old.number) : new ∈ replaced calls new :=
  (mem_replaced member same).mpr (.inl rfl)

/-- A replacement that keeps what the guards know of a call keeps it of all calls. -/
theorem map_place_replaced {calls : List Call} (numbers : (calls.map (·.number)).Nodup)
    {old new : Call} (member : old ∈ calls) (same : new.place = old.place) :
    (replaced calls new).map Call.place = calls.map Call.place := by
  rw [replaced, List.map_map]
  apply List.map_congr_left
  intro other inCalls
  by_cases here : other.number = new.number
  · have number : new.number = old.number := congrArg Prod.fst same
    rw [eq_of_number_eq numbers inCalls member (here.trans number)]
    simp [number, same]
  · simp [here]

/-! ## The relation -/

/-- The guards are as the calls in flight have left them. -/
structure Guards.Serves (guards : Guards) (calls : List Call) : Prop where
  /-- No two calls have one number. -/
  numbers : (calls.map (·.number)).Nodup
  /-- A call has the lock of its signature. -/
  lock_eq : ∀ call ∈ calls, guards.locks.get? call.signature = some call.lock
  /-- A signature has a lock only while it has users. -/
  locked : ∀ signature, (guards.locks.get? signature).isSome → 0 < usersOf calls signature
  /-- A signature's count is the number of its users, and there is none without users. -/
  users_eq : ∀ signature, guards.users.get? signature =
    if usersOf calls signature = 0 then none else some (usersOf calls signature)
  /-- Different signatures have different locks. -/
  lock_inj : ∀ {signature other lock}, guards.locks.get? signature = some lock →
    guards.locks.get? other = some lock → signature = other
  /-- The locks were made before the next one. -/
  lock_lt : ∀ {signature lock}, guards.locks.get? signature = some lock → lock < guards.next
  /-- A lock is held by the call that has it and works. -/
  holder_iff : ∀ lock number, guards.holders.get? lock = some number ↔
    ∃ call ∈ calls, call.number = number ∧ call.lock = lock ∧ call.Works

namespace Guards.Serves

variable {guards : Guards} {calls : List Call}

/-- Guards that were never used serve no calls. -/
theorem empty : Guards.empty.Serves [] where
  numbers := .nil
  lock_eq := by simp
  locked := by simp [Guards.empty]
  users_eq := by simp [Guards.empty, usersOf]
  lock_inj := by simp [Guards.empty]
  lock_lt := by simp [Guards.empty]
  holder_iff := by simp [Guards.empty]

/-- A signature without users has no lock. -/
theorem lock_none (serves : guards.Serves calls) {signature : String}
    (unused : usersOf calls signature = 0) : guards.locks.get? signature = none := by
  have notLocked := mt (serves.locked signature) (by omega)
  simpa using notLocked

/-- A signature has a lock exactly while it has users. -/
theorem has_lock_iff (serves : guards.Serves calls) (signature : String) :
    guards.locks.has signature = true ↔ 0 < usersOf calls signature := by
  rw [Table.has_eq_isSome]
  refine ⟨serves.locked signature, fun used => ?_⟩
  obtain ⟨call, member, rfl⟩ := usersOf_pos_iff.mp used
  rw [serves.lock_eq call member, Option.isSome_some]

/-- A signature has a count exactly while it has users. -/
theorem has_users_iff (serves : guards.Serves calls) (signature : String) :
    guards.users.has signature = true ↔ 0 < usersOf calls signature := by
  rw [Table.has_eq_isSome, serves.users_eq]
  split
  · next unused => simp [unused]
  · next used => simp [Nat.pos_of_ne_zero used]

/-- A call holds its lock exactly while it works. -/
theorem holds_iff (serves : guards.Serves calls) {call : Call} (member : call ∈ calls) :
    guards.holders.get? call.lock = some call.number ↔ call.Works := by
  rw [serves.holder_iff]
  constructor
  · rintro ⟨other, inCalls, same, _, works⟩
    rwa [← eq_of_number_eq serves.numbers inCalls member same]
  · exact fun works => ⟨call, member, rfl, rfl, works⟩

/-- Two calls on one signature have one lock. -/
theorem lock_unique (serves : guards.Serves calls) {call other : Call} (member : call ∈ calls)
    (otherMember : other ∈ calls) (same : call.signature = other.signature) :
    call.lock = other.lock := by
  have found := serves.lock_eq call member
  rw [same, serves.lock_eq other otherMember] at found
  exact (Option.some.inj found).symm

/-- Of the calls on one signature at most one works. -/
theorem works_unique (serves : guards.Serves calls) {call other : Call} (member : call ∈ calls)
    (otherMember : other ∈ calls) (same : call.signature = other.signature)
    (works : call.Works) (otherWorks : other.Works) : call = other := by
  have holds := (serves.holder_iff _ _).mpr ⟨call, member, rfl, rfl, works⟩
  have otherHolds := (serves.holder_iff _ _).mpr ⟨other, otherMember, rfl, rfl, otherWorks⟩
  rw [serves.lock_unique member otherMember same, otherHolds] at holds
  exact eq_of_number_eq serves.numbers member otherMember (Option.some.inj holds).symm

/-! ## What calls do -/

/-- A call with a new number leaves the numbers different. -/
theorem nodup_append_singleton (serves : guards.Serves calls) {call : Call}
    (fresh : call.number ∉ calls.map (·.number)) :
    ((calls ++ [call]).map (·.number)).Nodup := by
  rw [List.map_append, List.map_singleton, List.nodup_append]
  refine ⟨serves.numbers, by simp, ?_⟩
  intro number taken other new same
  rw [same, List.mem_singleton.mp new] at taken
  exact fresh taken

/-- A call that waits holds nothing. -/
theorem holder_append_singleton_iff (serves : guards.Serves calls) {call : Call}
    (waits : call.phase = .waiting) (lock : LockNumber) (number : CallNumber) :
    guards.holders.get? lock = some number ↔
      ∃ other ∈ calls ++ [call], other.number = number ∧ other.lock = lock ∧ other.Works := by
  rw [serves.holder_iff]
  simp [or_and_right, exists_or, Call.Works, waits]

/-- A waiting call comes to a signature that has users: it shares their lock and is counted. -/
theorem join (serves : guards.Serves calls) {call : Call}
    (fresh : call.number ∉ calls.map (·.number)) (waits : call.phase = .waiting)
    (found : guards.locks.get? call.signature = some call.lock) :
    { guards with
      users := guards.users.set call.signature
        ((guards.users.get? call.signature).getD 0 + 1) }.Serves (calls ++ [call]) where
  numbers := serves.nodup_append_singleton fresh
  lock_eq := by
    intro other member
    rcases List.mem_append.mp member with old | new
    · exact serves.lock_eq other old
    · rw [List.mem_singleton.mp new, found]
  locked := by
    intro signature locked
    have used := serves.locked signature locked
    rw [usersOf_append_singleton]
    omega
  users_eq := by
    intro signature
    have used := serves.locked call.signature (by simp [found])
    rw [Table.get?_set, serves.users_eq, serves.users_eq, usersOf_append_singleton]
    by_cases same : signature = call.signature
    · simp [same, Nat.pos_iff_ne_zero.mp used]
    · simp [same, Ne.symm same]
  lock_inj := serves.lock_inj
  lock_lt := serves.lock_lt
  holder_iff := serves.holder_append_singleton_iff waits

/-- A waiting call comes to a signature without users: a new lock is made for it. -/
theorem open_lock (serves : guards.Serves calls) {call : Call}
    (fresh : call.number ∉ calls.map (·.number)) (waits : call.phase = .waiting)
    (unused : usersOf calls call.signature = 0) (given : call.lock = guards.next) :
    { guards with
      locks := guards.locks.set call.signature guards.next
      users := guards.users.set call.signature 1
      next := guards.next + 1 }.Serves (calls ++ [call]) where
  numbers := serves.nodup_append_singleton fresh
  lock_eq := by
    intro other member
    rw [Table.get?_set]
    rcases List.mem_append.mp member with old | new
    · have differs : other.signature ≠ call.signature := by
        intro same
        have used := usersOf_pos_of_mem old
        rw [same] at used
        omega
      rw [if_neg differs, serves.lock_eq other old]
    · rw [List.mem_singleton.mp new, if_pos rfl, given]
  locked := by
    intro signature locked
    rw [usersOf_append_singleton]
    by_cases same : call.signature = signature
    · simp [same]
    · rw [Table.get?_set, if_neg (Ne.symm same)] at locked
      have used := serves.locked signature locked
      omega
  users_eq := by
    intro signature
    rw [Table.get?_set, serves.users_eq, usersOf_append_singleton]
    by_cases same : signature = call.signature
    · simp [same, unused]
    · simp [same, Ne.symm same]
  lock_inj := by
    intro signature other lock first second
    rw [Table.get?_set] at first second
    -- The new lock has a number that no older lock has.
    split at first <;> split at second
    · next same otherSame => rw [same, otherSame]
    · have older := serves.lock_lt second
      grind
    · have older := serves.lock_lt first
      grind
    · exact serves.lock_inj first second
  lock_lt := by
    intro signature lock has
    rw [Table.get?_set] at has
    split at has
    · obtain rfl := Option.some.inj has
      exact Nat.lt_succ_self _
    · exact Nat.lt_succ_of_lt (serves.lock_lt has)
  holder_iff := serves.holder_append_singleton_iff waits

/-- A waiting call that has come, with the lock that it was given, is served as well. -/
theorem enter (serves : guards.Serves calls) (call : Call)
    (fresh : call.number ∉ calls.map (·.number)) (waits : call.phase = .waiting)
    (given : call.lock = (guards.enter call.signature).2) :
    (guards.enter call.signature).1.Serves (calls ++ [call]) := by
  unfold Guards.enter at given ⊢
  cases found : guards.locks.get? call.signature with
  | some lock =>
    simp only [found] at given ⊢
    exact serves.join fresh waits (found.trans (congrArg some given.symm))
  | none =>
    simp only [found] at given ⊢
    have unused : usersOf calls call.signature = 0 := by
      by_contra used
      obtain ⟨other, member, same⟩ := usersOf_pos_iff.mp (Nat.pos_of_ne_zero used)
      rw [← same, serves.lock_eq other member] at found
      contradiction
    exact serves.open_lock fresh waits unused given

/-- Guards that are changed at most in who holds which lock serve calls of which they know the
same, if the holders are right. -/
theorem of_place_eq (serves : guards.Serves calls) {others : List Call}
    (same : others.map Call.place = calls.map Call.place) {holders : Table LockNumber CallNumber}
    (holder : ∀ lock number, holders.get? lock = some number ↔
      ∃ call ∈ others, call.number = number ∧ call.lock = lock ∧ call.Works) :
    { guards with holders }.Serves others := by
  have numbers : others.map (·.number) = calls.map (·.number) := by
    have mapped := congrArg (List.map Prod.fst) same
    rw [List.map_map, List.map_map] at mapped
    exact mapped
  have signatures : others.map (·.signature) = calls.map (·.signature) := by
    have mapped := congrArg (List.map fun place => place.2.1) same
    rw [List.map_map, List.map_map] at mapped
    exact mapped
  have users (signature : String) : usersOf others signature = usersOf calls signature := by
    rw [usersOf, signatures, usersOf]
  refine
    { numbers := numbers ▸ serves.numbers
      lock_eq := ?_
      locked := fun signature locked => users signature ▸ serves.locked signature locked
      users_eq := fun signature => users signature ▸ serves.users_eq signature
      lock_inj := serves.lock_inj
      lock_lt := serves.lock_lt
      holder_iff := holder }
  intro call member
  have placed : call.place ∈ calls.map Call.place := same ▸ List.mem_map_of_mem member
  obtain ⟨old, inCalls, agrees⟩ := List.mem_map.mp placed
  obtain ⟨_, signature, lock⟩ : old.number = call.number ∧ old.signature = call.signature ∧
      old.lock = call.lock := by simpa [Call.place] using agrees
  have found := serves.lock_eq old inCalls
  rw [signature, lock] at found
  exact found

/-- A call that goes on with its work, or goes on waiting, is served as before. -/
theorem replace (serves : guards.Serves calls) {old new : Call} (member : old ∈ calls)
    (same : new.place = old.place) (works : new.Works ↔ old.Works) :
    guards.Serves (replaced calls new) := by
  obtain ⟨number, _, lock⟩ : new.number = old.number ∧ new.signature = old.signature ∧
      new.lock = old.lock := by simpa [Call.place] using same
  refine serves.of_place_eq (map_place_replaced serves.numbers member same) fun held holder => ?_
  rw [serves.holder_iff]
  constructor
  · rintro ⟨call, inCalls, called, has, working⟩
    by_cases here : call.number = new.number
    · obtain rfl := eq_of_number_eq serves.numbers inCalls member (here.trans number)
      exact ⟨new, self_mem_replaced member new number, number.trans called, lock.trans has,
        works.mpr working⟩
    · exact ⟨call, (mem_replaced member number).mpr (.inr ⟨inCalls, here⟩), called, has, working⟩
  · rintro ⟨call, inReplaced, called, has, working⟩
    rcases (mem_replaced member number).mp inReplaced with rfl | ⟨inCalls, _⟩
    · exact ⟨old, member, number.symm.trans called, lock.symm.trans has, works.mp working⟩
    · exact ⟨call, inCalls, called, has, working⟩

/-- A waiting call that takes its free lock and sets to work is served. -/
theorem hold (serves : guards.Serves calls) {old new : Call} (member : old ∈ calls)
    (free : guards.isFree old.lock = true) (same : new.place = old.place) (works : new.Works) :
    (guards.hold old.lock old.number).Serves (replaced calls new) := by
  obtain ⟨number, _, lock⟩ : new.number = old.number ∧ new.signature = old.signature ∧
      new.lock = old.lock := by simpa [Call.place] using same
  have unheld : guards.holders.get? old.lock = none := by
    simpa [isFree, Table.has_eq_isSome] using free
  refine serves.of_place_eq (map_place_replaced serves.numbers member same) fun held holder => ?_
  rw [Table.get?_set]
  by_cases here : held = old.lock
  · rw [if_pos here, Option.some.injEq]
    constructor
    · rintro rfl
      exact ⟨new, self_mem_replaced member new number, number, lock.trans here.symm, works⟩
    · rintro ⟨call, inReplaced, called, has, working⟩
      rcases (mem_replaced member number).mp inReplaced with rfl | ⟨inCalls, _⟩
      · exact number.symm.trans called
      · -- Another call that worked with this lock would have held it.
        have holds := (serves.holder_iff held call.number).mpr ⟨call, inCalls, rfl, has, working⟩
        rw [here, unheld] at holds
        contradiction
  · rw [if_neg here, serves.holder_iff]
    constructor
    · rintro ⟨call, inCalls, called, has, working⟩
      have differs : call.number ≠ new.number := by
        intro agrees
        obtain rfl := eq_of_number_eq serves.numbers inCalls member (agrees.trans number)
        exact here has.symm
      exact ⟨call, (mem_replaced member number).mpr (.inr ⟨inCalls, differs⟩), called, has, working⟩
    · rintro ⟨call, inReplaced, called, has, working⟩
      rcases (mem_replaced member number).mp inReplaced with rfl | ⟨inCalls, _⟩
      · exact absurd (lock.symm.trans has).symm here
      · exact ⟨call, inCalls, called, has, working⟩

/-- After a call gave its lock back, the others hold what they held. -/
theorem holder_release_iff (serves : guards.Serves calls) {call : Call} (member : call ∈ calls)
    (lock : LockNumber) (number : CallNumber) :
    (guards.release call.lock call.number).holders.get? lock = some number ↔
      ∃ other ∈ calls.filter (·.number ≠ call.number),
        other.number = number ∧ other.lock = lock ∧ other.Works := by
  -- The lock goes only if the call holds it, and then nobody else does.
  have released : (guards.release call.lock call.number).holders.get? lock = some number ↔
      guards.holders.get? lock = some number ∧ number ≠ call.number := by
    unfold release
    split
    · next holds =>
      rw [Table.get?_remove]
      split
      · next here =>
        rw [here, holds]
        simp [eq_comm]
      · next elsewhere =>
        refine ⟨fun found => ⟨found, ?_⟩, And.left⟩
        rintro rfl
        obtain ⟨other, inCalls, called, has, _⟩ := (serves.holder_iff _ _).mp found
        obtain rfl := eq_of_number_eq serves.numbers inCalls member called
        exact elsewhere has.symm
    · next waits =>
      refine ⟨fun found => ⟨found, ?_⟩, And.left⟩
      rintro rfl
      obtain ⟨other, inCalls, called, has, _⟩ := (serves.holder_iff _ _).mp found
      obtain rfl := eq_of_number_eq serves.numbers inCalls member called
      exact waits (has ▸ found)
  rw [released, serves.holder_iff]
  simp only [List.mem_filter, decide_eq_true_eq]
  constructor
  · rintro ⟨⟨other, inCalls, rfl, has, works⟩, differs⟩
    exact ⟨other, ⟨inCalls, differs⟩, rfl, has, works⟩
  · rintro ⟨other, ⟨inCalls, differs⟩, rfl, has, works⟩
    exact ⟨⟨other, inCalls, rfl, has, works⟩, differs⟩

/-- A call that is not the last on its signature leaves its lock to the others. -/
theorem leave_others (serves : guards.Serves calls) {call : Call} (member : call ∈ calls)
    {holders : Table LockNumber CallNumber}
    (released : guards.release call.lock call.number = { guards with holders })
    (others : usersOf (calls.filter (·.number ≠ call.number)) call.signature ≠ 0) :
    { guards with
      holders
      users := guards.users.set call.signature (usersOf calls call.signature - 1) }.Serves
      (calls.filter (·.number ≠ call.number)) where
  numbers := serves.numbers.sublist (List.filter_sublist.map _)
  lock_eq := fun other left => serves.lock_eq other (List.mem_filter.mp left).1
  locked := by
    intro signature locked
    have used := serves.locked signature locked
    rw [usersOf_filter serves.numbers member] at used
    by_cases same : call.signature = signature
    · rw [← same]
      omega
    · rw [if_neg same] at used
      exact used
  users_eq := by
    intro signature
    rw [Table.get?_set]
    split
    · next same =>
      rw [same, if_neg others, usersOf_filter serves.numbers member, if_pos rfl,
        Nat.add_sub_cancel]
    · next differs =>
      rw [serves.users_eq, usersOf_filter serves.numbers member, if_neg (Ne.symm differs),
        Nat.add_zero]
  lock_inj := serves.lock_inj
  lock_lt := serves.lock_lt
  holder_iff := by
    have holder := serves.holder_release_iff member
    rw [released] at holder
    exact holder

/-- The last call on its signature takes lock and count with it. -/
theorem leave_last (serves : guards.Serves calls) {call : Call} (member : call ∈ calls)
    {holders : Table LockNumber CallNumber}
    (released : guards.release call.lock call.number = { guards with holders })
    (last : usersOf (calls.filter (·.number ≠ call.number)) call.signature = 0) :
    { guards with
      holders
      users := guards.users.remove call.signature
      locks := guards.locks.remove call.signature }.Serves
      (calls.filter (·.number ≠ call.number)) where
  numbers := serves.numbers.sublist (List.filter_sublist.map _)
  lock_eq := by
    intro other left
    have differs : other.signature ≠ call.signature := by
      intro same
      have used := usersOf_pos_of_mem left
      rw [same] at used
      omega
    rw [Table.get?_remove, if_neg differs, serves.lock_eq other (List.mem_filter.mp left).1]
  locked := by
    intro signature locked
    rw [Table.get?_remove] at locked
    split at locked
    · contradiction
    · next differs =>
      have used := serves.locked signature locked
      rw [usersOf_filter serves.numbers member, if_neg (Ne.symm differs)] at used
      exact used
  users_eq := by
    intro signature
    rw [Table.get?_remove]
    split
    · next same => rw [same, if_pos last]
    · next differs =>
      rw [serves.users_eq, usersOf_filter serves.numbers member, if_neg (Ne.symm differs),
        Nat.add_zero]
  lock_inj := by
    intro signature other lock first second
    rw [Table.get?_remove] at first second
    split at first
    · contradiction
    · split at second
      · contradiction
      · exact serves.lock_inj first second
  lock_lt := by
    intro signature lock has
    rw [Table.get?_remove] at has
    split at has
    · contradiction
    · exact serves.lock_lt has
  holder_iff := by
    have holder := serves.holder_release_iff member
    rw [released] at holder
    exact holder

/-- A call can go, and the guards serve the others. -/
theorem leave (serves : guards.Serves calls) {call : Call} (member : call ∈ calls) :
    ∃ next, (guards.release call.lock call.number).leave? call.signature = some next ∧
      next.Serves (calls.filter (·.number ≠ call.number)) := by
  obtain ⟨holders, released⟩ :
      ∃ holders, guards.release call.lock call.number = { guards with holders } := by
    unfold release
    split
    · exact ⟨_, rfl⟩
    · exact ⟨guards.holders, rfl⟩
  have users := usersOf_filter serves.numbers member call.signature
  rw [if_pos rfl] at users
  have counted : guards.users.get? call.signature = some (usersOf calls call.signature) := by
    rw [serves.users_eq, if_neg (by omega)]
  have locked : guards.locks.has call.signature = true := by
    rw [Table.has_eq_isSome, serves.lock_eq call member, Option.isSome_some]
  rw [released]
  by_cases last : usersOf (calls.filter (·.number ≠ call.number)) call.signature = 0
  · have none : usersOf calls call.signature - 1 = 0 := by omega
    exact ⟨_, by simp only [leave?, counted, none, locked, if_true],
      serves.leave_last member released last⟩
  · have some : usersOf calls call.signature - 1 ≠ 0 := by omega
    exact ⟨_, by simp only [leave?, counted, some, if_false],
      serves.leave_others member released last⟩

end Guards.Serves

end CompletionServer.Service
