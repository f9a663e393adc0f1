import CompletionServer.Proofs.Project.Upkeep

/-!
# Which changes reach the published project

The watcher reads the definition again when a change is reported to it. It does not read it when it
subscribes. So, once everything has come to rest, the published state is that of the definition as
it is, provided that the last change was read since or was made under the present subscription. A
last change that was made while nobody was subscribed, or under a subscription that is over, leaves
no trace.
-/

namespace CompletionServer.Project.Upkeep

/-! ## The last change -/

/-- The last change has not been read since it was made, when things stood as in `middle`. -/
def Unread (start : Upkeep) (events : List Event) (middle : Upkeep) : Prop :=
  ∃ before files later, events = before ++ .change files :: later ∧
    start.play before = some middle ∧ ∀ event ∈ later, event.touchesFiles = false

/-- A time at which things stood as in `middle` belongs to the subscription that there is now. -/
def IsUnderSubscription (middle last : Upkeep) : Prop :=
  middle.isSubscribed = true ∧
    middle.watcher.subscriptions.length = last.watcher.subscriptions.length

/-- Whether the definition is going to be read: a batch is due, or an operation has yet to read. -/
def WillRead (upkeep : Upkeep) : Prop :=
  upkeep.isDue = true ∨ upkeep.manager.operations ≠ [] ∧ upkeep.reading = none

/-- What holds of the last change at all times. -/
inductive Abreast (start : Upkeep) (events : List Event) (upkeep : Upkeep) : Prop
  /-- Nothing has been read yet. -/
  | unloaded (none : upkeep.readings = [])
  /-- The files have been read as they are. -/
  | fresh (read : upkeep.readings.getLast? = some upkeep.files)
  /-- The last change is unread, and will be read if it belongs to the present subscription. -/
  | behind {middle : Upkeep} (unread : Unread start events middle)
      (older : middle.watcher.subscriptions.length ≤ upkeep.watcher.subscriptions.length)
      (follows : IsUnderSubscription middle upkeep → upkeep.isSubscribed = true → upkeep.WillRead)

section Steps

variable {start upkeep next : Upkeep} {events : List Event} {event : Event}

/-- What is unread stays so until the definition is read or the files change. -/
theorem Unread.concat {middle : Upkeep} (unread : Unread start events middle)
    (silent : event.touchesFiles = false) : Unread start (events ++ [event]) middle := by
  obtain ⟨before, files, later, rfl, played, untouched⟩ := unread
  refine ⟨before, files, later ++ [event], by simp, played, ?_⟩
  intro other member
  rcases List.mem_append.mp member with old | new
  · exact untouched other old
  · rw [List.mem_singleton.mp new]
    exact silent

/-- Once the definition is read, nothing is unread until the files change again. -/
theorem not_unread_of_read {middle : Upkeep} {before later : List Event}
    (unchanged : ∀ files, Event.change files ∉ later) :
    ¬ Unread start (before ++ .read :: later) middle := by
  rintro ⟨first, files, rest, split, _, untouched⟩
  rcases List.append_eq_append_iff.mp split with ⟨between, _, tail⟩ | ⟨between, _, tail⟩
  · -- The change would be the reading, or come after it.
    cases between with
    | nil => simp at tail
    | cons event between =>
      rw [List.cons_append, List.cons.injEq] at tail
      exact unchanged files (by simp [tail.2])
  · -- The reading would be the change, or come after it.
    cases between with
    | nil => simp at tail
    | cons event between =>
      rw [List.cons_append, List.cons.injEq] at tail
      exact absurd (untouched .read (by simp [tail.2])) (by decide)

/-- Where files and readings stay as they are, it is enough to look at the subscription. -/
theorem Abreast.of_silent (abreast : Abreast start events upkeep)
    (silent : event.touchesFiles = false) (files : next.files = upkeep.files)
    (readings : next.readings = upkeep.readings)
    (older : upkeep.watcher.subscriptions.length ≤ next.watcher.subscriptions.length)
    (kept : upkeep.watcher.subscriptions.length = next.watcher.subscriptions.length →
      next.isSubscribed = true → upkeep.isSubscribed = true ∧ (upkeep.WillRead → next.WillRead)) :
    Abreast start (events ++ [event]) next := by
  cases abreast with
  | unloaded none => exact .unloaded (readings.trans none)
  | fresh read =>
    refine .fresh ?_
    rw [readings, files, read]
  | behind unread wasOlder follows =>
    refine .behind (unread.concat silent) (Nat.le_trans wasOlder older) ?_
    rintro ⟨wasSubscribed, same⟩ subscribed
    have lengths : upkeep.watcher.subscriptions.length = next.watcher.subscriptions.length := by
      omega
    obtain ⟨isSubscribed, willRead⟩ := kept lengths subscribed
    exact willRead (follows ⟨wasSubscribed, same.trans lengths.symm⟩ isSubscribed)

/-- Looking for the directory makes a new subscription or leaves none. -/
theorem look_isSubscribed (upkeep : Upkeep) (directory : Path) (isThere : Bool) :
    (upkeep.watcher.look directory isThere).subscriptions.length =
        upkeep.watcher.subscriptions.length + 1 ∨
      (upkeep.watcher.look directory isThere).subscriptions.length =
          upkeep.watcher.subscriptions.length ∧
        (upkeep.withoutSubscription (upkeep.watcher.look directory isThere)).isSubscribed =
          false := by
  cases isThere with
  | true => exact .inl (by simp [Watcher.look])
  | false => exact .inr ⟨rfl, rfl⟩

/-- One step keeps abreast of the files. -/
theorem Abreast.transition {sdk : String} {definition : Path}
    (abreast : Abreast start events upkeep) (orderly : Orderly sdk definition upkeep)
    (played : start.play events = some upkeep) (change : Transition upkeep event next) :
    Abreast start (events ++ [event]) next := by
  cases change with
  | change files =>
    refine .behind ⟨events, files, [], rfl, played, by simp⟩ (Nat.le_refl _) ?_
    rintro ⟨subscribed, _⟩ _
    exact .inl (by simp [subscribed])
  | read held unread => exact .fresh (by simp)
  | load idle stopped =>
    refine abreast.of_silent rfl rfl rfl (Nat.le_refl _) fun _ subscribed => ⟨subscribed, ?_⟩
    rintro (due | ⟨_, unread⟩)
    · exact .inl due
    · exact .inr ⟨by simp, unread⟩
  | acquire first free =>
    exact abreast.of_silent rfl rfl rfl (Nat.le_refl _)
      fun _ subscribed => ⟨subscribed, fun willRead => willRead⟩
  | finish member holds read =>
    have busy : upkeep.manager.operations ≠ [] := List.ne_nil_of_mem member
    have stays (willRead : upkeep.WillRead) : upkeep.isDue = true := by
      rcases willRead with due | ⟨_, unread⟩
      · exact due
      · rw [read] at unread
        contradiction
    rcases orderly.watcher_refreshed busy with ⟨same, absent⟩ | ⟨directory, refreshing, goes⟩
    · rw [same]
      exact abreast.of_silent rfl rfl rfl (Nat.le_refl _)
        fun _ subscribed => ⟨subscribed, fun willRead => .inl (stays willRead)⟩
    · rw [goes]
      refine abreast.of_silent rfl rfl rfl (Nat.le_refl _)
        fun _ _ => ⟨by simp [isSubscribed, refreshing], fun willRead => .inl (stays willRead)⟩
  | start loaded idle stopped =>
    exact abreast.of_silent rfl rfl rfl (Nat.le_refl _) fun _ subscribed => by contradiction
  | @look _ directory isThere silent waits =>
    rcases look_isSubscribed upkeep directory isThere with grown | ⟨same, unsubscribed⟩
    · refine abreast.of_silent silent rfl rfl ?_ fun lengths _ => ?_
      · exact Nat.le_of_lt (Nat.lt_of_lt_of_eq (Nat.lt_succ_self _) grown.symm)
      · have lengths' := lengths.trans grown
        omega
    · refine abreast.of_silent silent rfl rfl (Nat.le_of_eq same.symm) fun _ subscribed => ?_
      rw [unsubscribed] at subscribed
      contradiction
  | fail silent subscribed =>
    exact abreast.of_silent silent rfl rfl (Nat.le_refl _) fun _ subscribed => by contradiction
  | ask subscribed =>
    obtain ⟨_, _, unread⟩ := orderly.idle (by simp [subscribed]) (by simp [subscribed])
    exact abreast.of_silent rfl rfl rfl (Nat.le_refl _)
      fun _ _ => ⟨by simp [isSubscribed, subscribed], fun _ => .inr ⟨by simp, unread⟩⟩
  | stay silent =>
    exact abreast.of_silent silent rfl rfl (Nat.le_refl _)
      fun _ subscribed => ⟨subscribed, fun willRead => willRead⟩

end Steps

/-- Every run keeps abreast of the files. -/
theorem Abreast.of_play {sdk : String} {definition : Path} {files : Files.System}
    {events : List Event} {last : Upkeep}
    (played : (initial sdk definition files).play events = some last) :
    Abreast (initial sdk definition files) events last :=
  Machine.invariant_of_play played (Abreast (initial sdk definition files)) (.unloaded rfl)
    fun begun abreast happens =>
      abreast.transition (.of_play begun) begun (transition_of_step happens)

/-! ## What is read -/

/-- The files after each change, in order. -/
def changes (events : List Event) : List Files.System :=
  events.filterMap fun
    | .change files => some files
    | _ => none

section Readings

variable {sdk : String} {definition : Path} {upkeep next last : Upkeep} {event : Event}

/-- An event that does not touch the files is no change. -/
theorem changes_cons_of_silent (silent : event.touchesFiles = false) (rest : List Event) :
    changes (event :: rest) = changes rest :=
  List.filterMap_cons_none (by cases event <;> simp_all [Event.touchesFiles])

/-- A step changes the files, reads them, or does neither. -/
theorem Transition.files_readings (change : Transition upkeep event next) :
    (event = .change next.files ∧ next.readings = upkeep.readings) ∨
      (event = .read ∧ next.files = upkeep.files ∧
        next.readings = upkeep.readings ++ [upkeep.files]) ∨
      (event.touchesFiles = false ∧ next.files = upkeep.files ∧
        next.readings = upkeep.readings) := by
  cases change with
  | change files => exact .inl ⟨rfl, rfl⟩
  | read => exact .inr (.inl ⟨rfl, rfl, rfl⟩)
  | look _ silent => exact .inr (.inr ⟨silent, rfl, rfl⟩)
  | fail silent => exact .inr (.inr ⟨silent, rfl, rfl⟩)
  | stay silent => exact .inr (.inr ⟨silent, rfl, rfl⟩)
  | load => exact .inr (.inr ⟨rfl, rfl, rfl⟩)
  | acquire => exact .inr (.inr ⟨rfl, rfl, rfl⟩)
  | finish => exact .inr (.inr ⟨rfl, rfl, rfl⟩)
  | start => exact .inr (.inr ⟨rfl, rfl, rfl⟩)
  | ask => exact .inr (.inr ⟨rfl, rfl, rfl⟩)

/-- What goes on after a change starts from the new files. -/
theorem play_of_change {start middle : Upkeep} {before later : List Event} {files : Files.System}
    (played : start.play (before ++ .change files :: later) = some last)
    (playedBefore : start.play before = some middle) :
    play { middle with files, isDue := middle.isDue || middle.isSubscribed } later = some last := by
  exact (Machine.play_append_of_play playedBefore _).symm.trans played

/-- While neither the files change nor the definition is read, nothing is added to the readings. -/
theorem readings_of_silent {events : List Event} (played : upkeep.play events = some last)
    (silent : ∀ event ∈ events, event.touchesFiles = false) :
    last.readings = upkeep.readings := by
  induction events generalizing upkeep with
  | nil =>
    obtain rfl := Option.some.inj played
    rfl
  | cons event rest ih =>
    obtain ⟨next, happens, goes⟩ := Option.bind_eq_some_iff.mp played
    obtain ⟨here, later⟩ := List.forall_mem_cons.mp silent
    rw [ih goes later]
    rcases (transition_of_step happens).files_readings with ⟨rfl, _⟩ | ⟨rfl, _⟩ | ⟨_, _, same⟩
    · contradiction
    · contradiction
    · exact same

/-- Readings of a definition that cannot be loaded do not count. -/
theorem latest_of_unloadable {events : List Event} (played : upkeep.play events = some last)
    (broken : ∀ files ∈ upkeep.files :: changes events,
      (Project.load files sdk definition).toOption = none) :
    latest sdk definition last.readings = latest sdk definition upkeep.readings := by
  induction events generalizing upkeep with
  | nil =>
    obtain rfl := Option.some.inj played
    rfl
  | cons event rest ih =>
    obtain ⟨next, happens, goes⟩ := Option.bind_eq_some_iff.mp played
    obtain ⟨here, later⟩ := List.forall_mem_cons.mp broken
    rcases (transition_of_step happens).files_readings with
      ⟨rfl, same⟩ | ⟨rfl, files, grown⟩ | ⟨silent, files, same⟩
    · rw [ih goes later, same]
    · rw [ih goes (by rw [files]; exact broken), grown, latest_concat, here, Option.none_or]
    · rw [changes_cons_of_silent silent, ← files] at broken
      rw [ih goes broken, same]

end Readings

/-! ## At rest -/

/-- Everything has come to rest: the watcher is subscribed and waits, and no batch is due. -/
structure IsAtRest (upkeep : Upkeep) : Prop where
  watching : upkeep.watcher.status = .watching
  subscribed : ∃ directory, upkeep.watcher.loop = .subscribed directory
  delivered : upkeep.isDue = false

/-- Whether everything has come to rest can be looked up. -/
instance (upkeep : Upkeep) : Decidable upkeep.IsAtRest :=
  decidable_of_iff
    (upkeep.watcher.status = .watching ∧
      (match upkeep.watcher.loop with | .subscribed _ => true | _ => false) = true ∧
      upkeep.isDue = false) <| by
    constructor
    · rintro ⟨watching, subscribed, delivered⟩
      refine ⟨watching, ?_, delivered⟩
      split at subscribed
      · exact ⟨_, by assumption⟩
      · contradiction
    · rintro ⟨watching, ⟨directory, subscribed⟩, delivered⟩
      exact ⟨watching, by rw [subscribed], delivered⟩

section Rest

variable {sdk : String} {definition : Path} {last : Upkeep}

/-- At rest, what is published is the latest reading that could be loaded. -/
theorem Orderly.state_of_rest (orderly : Orderly sdk definition last) (rest : last.IsAtRest) :
    last.manager.state = latest sdk definition last.readings := by
  obtain ⟨directory, subscribed⟩ := rest.subscribed
  obtain ⟨_, _, unread⟩ := orderly.idle (by simp [subscribed]) (by simp [subscribed])
  rw [← orderly.published, unread, Option.bind_none, Option.none_or]

/-- At rest the definition was read as it is, unless a change was missed. -/
theorem getLast?_readings_of_rest {files : Files.System} {events : List Event}
    (played : (initial sdk definition files).play events = some last) (rest : last.IsAtRest)
    (noticed : ∀ middle, Unread (initial sdk definition files) events middle →
      IsUnderSubscription middle last) :
    last.readings.getLast? = some last.files := by
  have orderly := Orderly.of_play played
  obtain ⟨directory, subscribed⟩ := rest.subscribed
  obtain ⟨idle, _, _⟩ := orderly.idle (by simp [subscribed]) (by simp [subscribed])
  cases Abreast.of_play played with
  | unloaded none =>
    -- A watcher that runs was started on a loaded project, and loading it is a reading.
    have loaded := orderly.loaded (by simp [subscribed])
    rw [Manager.isLoaded, orderly.state_of_rest rest, none] at loaded
    contradiction
  | fresh read => exact read
  | behind unread older follows =>
    rcases follows (noticed _ unread) (by simp [isSubscribed, subscribed]) with due | ⟨busy, _⟩
    · rw [rest.delivered] at due
      contradiction
    · exact absurd idle busy

end Rest

/-- In every run that loads a project and watches its definition, while files change and
subscriptions break, end and are made again in any order, and whenever everything has come to rest:

* if the last change was read since, or was made under the present subscription, and the definition
  can be loaded as it is, then what it loads to is published;
* if the definition cannot be loaded since some change, then what is published is what was, or was
  about to be, when that change was made;
* if the last change was not read since, then what is published is what was, or was about to be,
  when it was made, whatever the definition loads to as it is. -/
theorem publishes_noticed_changes {sdk : String} {definition : Path} {files : Files.System}
    {events : List Event} {last : Upkeep}
    (played : (initial sdk definition files).play events = some last) (rest : last.IsAtRest) :
    ((∀ middle, Unread (initial sdk definition files) events middle →
        IsUnderSubscription middle last) →
      ∀ state, (Project.load last.files sdk definition).toOption = some state →
        last.manager.current = .ok state) ∧
    (∀ before changed later middle, events = before ++ .change changed :: later →
      (initial sdk definition files).play before = some middle →
      (∀ files ∈ changed :: changes later,
        (Project.load files sdk definition).toOption = none) →
      last.manager.state = (middle.reading.bind Except.toOption).or middle.manager.state) ∧
    (∀ middle, Unread (initial sdk definition files) events middle →
      last.manager.state = (middle.reading.bind Except.toOption).or middle.manager.state) := by
  have published := (Orderly.of_play played).state_of_rest rest
  refine ⟨?_, ?_, ?_⟩
  · intro noticed state loaded
    obtain ⟨readings, split⟩ :=
      List.getLast?_eq_some_iff.mp (getLast?_readings_of_rest played rest noticed)
    rw [split, latest_concat, loaded, Option.some_or] at published
    rw [Manager.current, published]
  · rintro before changed later middle rfl playedBefore broken
    rw [published, (Orderly.of_play playedBefore).published]
    exact (latest_of_unloadable (play_of_change played playedBefore) broken :)
  · rintro middle ⟨before, changed, later, rfl, playedBefore, silent⟩
    rw [published, (Orderly.of_play playedBefore).published,
      readings_of_silent (play_of_change played playedBefore) silent]

/-- Files with one definition, of a module of the given name. -/
def filesOf (name : String) : Files.System :=
  ⟨⟨[(["App.yaml"], .file s!"module: {name}\nsdk: macosx".toUTF8.toList)]⟩, [], "", []⟩

/-- What a definition of a module of the given name loads to. -/
def stateOf (name : String) : State :=
  ⟨"/App.yaml", name, "macosx", none, [], [], []⟩

/-- A definition that is neither loaded nor watched yet. -/
def unwatched : Upkeep := initial "" (.ofString "/App.yaml") (filesOf "Before")

/-- The definition is loaded and watched. -/
def startUp : List Event := [.load, .acquire 0, .read, .finish 0, .start, .run]

/-- The definition is rewritten under the subscription, and a batch that reports it is delivered. -/
def noticedRewrite : List Event :=
  startUp ++ [.change (filesOf "After"), .deliver [⟨.modified, "/App.yaml"⟩], .acquire 1]

/-- The rewritten definition is published. -/
theorem publishes_noticed_changes_rewritten :
    ∃ last ∈ unwatched.play (noticedRewrite ++ .read :: [.finish 1]), last.IsAtRest ∧
      last.manager.current = .ok (stateOf "After") := by
  obtain ⟨last, played, rest, loaded⟩ :
      ∃ last ∈ unwatched.play (noticedRewrite ++ .read :: [.finish 1]), last.IsAtRest ∧
        (Project.load last.files "" (.ofString "/App.yaml")).toOption = some (stateOf "After") := by
    decide +kernel
  have noticed := (publishes_noticed_changes played rest).1 fun _ unread =>
    absurd unread (not_unread_of_read (by simp))
  exact ⟨last, played, rest, noticed _ loaded⟩

/-- A definition that is rewritten after the subscription broke and before the next one is made is
not published, though everything is at rest. -/
theorem misses_change_between_subscriptions :
    ∃ last ∈ unwatched.play (startUp ++ [.fail, .change (filesOf "After"), .retry]),
      last.IsAtRest ∧
        (Project.load last.files "" (.ofString "/App.yaml")).toOption = some (stateOf "After") ∧
        last.manager.state = some (stateOf "Before") := by
  decide +kernel

end CompletionServer.Project.Upkeep
