import CompletionServer.Project.Manager
import CompletionServer.Proofs.Service.Provenance

/-!
# A service and the keeper of its project

Requests come while the project is loaded and refreshed. `Site` joins the two machines: a request is
given the project state that is published at this moment, and from then on the project and the call
go their own ways. A run is any sequence of events of both.
-/

namespace CompletionServer

/-- A service, and the manager of the project that its calls work with. -/
structure Site where
  manager : Project.Manager
  service : Service

namespace Site

/-- Something that happens to a site. -/
inductive Event
  /-- Something happens to the project. -/
  | project (event : Project.Manager.Event)
  /-- A request comes. -/
  | request (request : Request)
  /-- Something happens to the calls in flight or their children. -/
  | proceed (event : Service.Event)

/-- Whether an event is about calls in flight or their children. -/
def isInner : Service.Event → Bool
  | .enter _ _ | .close => false
  | _ => true

/-- The site after an event, none if the event cannot happen. A request that comes before the
project is loaded is refused and changes nothing. -/
def step (site : Site) : Event → Option Site
  | .project event => (site.manager.step event).map fun manager => { site with manager }
  | .request request =>
    match site.manager.current with
    | .ok state => some { site with service := site.service.enter state request }
    | .error _ => some site
  | .proceed event =>
    if isInner event then (site.service.step event).map fun service => { site with service }
    else none

/-- The site after some events in order, none if one of them cannot happen. -/
abbrev play (site : Site) (events : List Event) : Option Site :=
  Machine.play step site events

/-- The requests among some events. -/
def requests (events : List Event) : List Request :=
  events.filterMap fun
    | .request request => some request
    | _ => none

/-! ## Runs -/

/-- The service of a site changes when a request is let in or a call in flight proceeds. -/
theorem service_of_step {site next : Site} {event : Event} (happens : site.step event = some next) :
    next.service = site.service ∨
      (∃ state request, event = .request request ∧ site.manager.current = .ok state ∧
        next.service = site.service.enter state request) ∨
      ∃ inner, event = .proceed inner ∧ isInner inner = true ∧
        site.service.step inner = some next.service := by
  cases event with
  | project event =>
    obtain ⟨manager, _, rfl⟩ := Option.map_eq_some_iff.mp happens
    exact .inl rfl
  | request request =>
    simp only [step] at happens
    split at happens
    · next state current =>
      obtain rfl := Option.some.inj happens
      exact .inr (.inl ⟨state, request, rfl, current, rfl⟩)
    · obtain rfl := Option.some.inj happens
      exact .inl rfl
  | proceed inner =>
    simp only [step] at happens
    split at happens
    · next isInner =>
      obtain ⟨service, proceeds, rfl⟩ := Option.map_eq_some_iff.mp happens
      exact .inr (.inr ⟨inner, rfl, isInner, proceeds⟩)
    · contradiction

/-- A step of a site is a step of its service, or leaves it alone. -/
theorem reachable_of_step {start : Service} {site next : Site} {event : Event}
    (before : Service.Reachable start site.service) (happens : site.step event = some next) :
    Service.Reachable start next.service := by
  rcases service_of_step happens with same | ⟨state, request, _, _, entered⟩ | ⟨inner, _, _, steps⟩
  · rw [same]
    exact before
  · rw [entered]
    exact before.step (.enter state request) rfl
  · exact before.step inner steps

/-- The service of a site that is reached is reached. -/
theorem reachable_of_play {start : Service} {site last : Site} {events : List Event}
    (before : Service.Reachable start site.service) (played : site.play events = some last) :
    Service.Reachable start last.service := by
  induction events generalizing site with
  | nil =>
    obtain rfl := Option.some.inj played
    exact before
  | cons event rest ih =>
    obtain ⟨next, happens, played⟩ := Option.bind_eq_some_iff.mp played
    exact ih (reachable_of_step before happens) played

/-- In a step of a site nothing is said of calls that was not so before. -/
theorem stems_of_step {site next : Site} {event : Event} (happens : site.step event = some next) :
    site.service.Stems next.service := by
  rcases service_of_step happens with same | ⟨state, request, _, _, entered⟩ | ⟨inner, _, _, steps⟩
  · rw [same]
    exact .refl site.service
  · rw [entered]
    exact (Service.Transition.enter state request).stems
  · exact (Service.transition_of_step steps).stems

/-- A number goes on to stand for its request through a run. -/
theorem startedWith_of_play {site last : Site} {events : List Event} {number : Service.CallNumber}
    {request : Request} {state : Project.State}
    (started : site.service.StartedWith number request state)
    (played : site.play events = some last) :
    last.service.StartedWith number request state := by
  induction events generalizing site with
  | nil =>
    obtain rfl := Option.some.inj played
    exact started
  | cons event rest ih =>
    obtain ⟨next, happens, played⟩ := Option.bind_eq_some_iff.mp played
    exact ih (started.stems (stems_of_step happens)) played

end Site

end CompletionServer
