/-!
# Runs

A service, a watcher and a manager are machines: a step takes a state by an event to the next one,
or the event cannot happen there. A run takes one event after the other. What holds of every state
that a run leads to is proved from its last step backwards, `invariant_of_play`.
-/

namespace CompletionServer.Machine

variable {State Event : Type} {step : State → Event → Option State}

/-- The state after some events in order, none if one of them cannot happen. -/
def play (step : State → Event → Option State) (state : State) : List Event → Option State
  | [] => some state
  | event :: rest => (step state event).bind (play step · rest)

/-- Without events nothing changes. -/
@[simp] theorem play_nil (state : State) : play step state [] = some state := rfl

/-- The first event of a run is a step, and the others go on from there. -/
@[simp] theorem play_cons (state : State) (event : Event) (rest : List Event) :
    play step state (event :: rest) = (step state event).bind (play step · rest) := rfl

/-- A run in two parts is a run of the first and then of the second. -/
theorem play_append (state : State) (before later : List Event) :
    play step state (before ++ later) = (play step state before).bind (play step · later) := by
  induction before generalizing state with
  | nil => rfl
  | cons event rest ih =>
    rw [List.cons_append, play, play, Option.bind_assoc]
    exact congrArg _ (funext ih)

/-- The second part of a run goes on from where the first leads. -/
theorem play_append_of_play {state middle : State} {before : List Event}
    (played : play step state before = some middle) (later : List Event) :
    play step state (before ++ later) = play step middle later := by
  rw [play_append, played, Option.bind_some]

/-- A run with one more event is a run and then a step. -/
theorem play_concat_eq_some_iff {state last : State} {events : List Event} {event : Event} :
    play step state (events ++ [event]) = some last ↔
      ∃ before, play step state events = some before ∧ step before event = some last := by
  simp [play_append, Option.bind_eq_some_iff]

/-- What holds before any event, and is kept by every step of a run, holds of every run and the
state it leads to. -/
theorem invariant_of_play {start last : State} {events : List Event}
    (played : play step start events = some last) (property : List Event → State → Prop)
    (initial : property [] start)
    (kept : ∀ {front : List Event} {state next : State} {event : Event},
      play step start front = some state → property front state →
        step state event = some next → property (front ++ [event]) next) :
    property events last := by
  suffices onward : ∀ (front rest : List Event) (state : State),
      play step start front = some state → property front state →
      play step state rest = some last → property (front ++ rest) last from
    onward [] events start rfl initial played
  intro front rest
  induction rest generalizing front with
  | nil =>
    intro state _ holds ended
    obtain rfl := Option.some.inj ended
    rwa [List.append_nil]
  | cons event rest ih =>
    intro state begun holds goesOn
    obtain ⟨next, happens, goesOn⟩ := Option.bind_eq_some_iff.mp goesOn
    have further := play_concat_eq_some_iff.mpr ⟨state, begun, happens⟩
    rw [List.append_cons]
    exact ih _ next further (kept begun holds happens) goesOn

end CompletionServer.Machine
