import CompletionServer.Http.Failed
import CompletionServer.Http.Route
import CompletionServer.Project.Manager
import CompletionServer.Project.Watcher
import CompletionServer.Report
import CompletionServer.Request.Headers
import CompletionServer.Service.Run

/-!
# The daemon

The daemon puts the parts together: at its start it loads the project, sets up the completion
service and begins to watch the definition file; then it serves requests until it is shut down. A
start without a project file, or with one that cannot be loaded, fails. -/

namespace CompletionServer

/-- A daemon. Its parts are there once it has started. -/
structure Daemon where
  settings : Settings
  manager : Option Project.Manager
  service : Option Service
  watcher : Option Project.Watcher
  /-- Every refresh that was asked for: what triggered it and what the watcher said about itself. -/
  refreshes : List (String × Option Project.Watcher.Status)

namespace Daemon

/-- A daemon that has not started. -/
def fresh (settings : Settings) : Daemon := ⟨settings, none, none, none, []⟩

/-- A daemon whose parts are there, but that has loaded nothing and watches nothing. -/
def unloaded (settings : Settings) (file : Path) : Daemon :=
  ⟨settings, some (.create file), some (.create settings {}), some .idle, []⟩

/-- The published project state. -/
def current (daemon : Daemon) : Option Project.State :=
  daemon.manager.bind (·.state)

/-- The outcome of loading a definition file as it is now. -/
def loadOutcome (settings : Settings) (system : Files.System) (file : Path) :
    Except Project.LoadFailure Project.State :=
  Project.load system settings.defaultSdkRoot file

/-! ## Watching -/

/-- The daemon with its watcher changed, if it has one. -/
def mapWatcher (daemon : Daemon) (change : Project.Watcher → Project.Watcher) : Daemon :=
  { daemon with watcher := daemon.watcher.map change }

/-- The watcher is started, and its loop runs until it waits. -/
def startWatching (daemon : Daemon) (system : Files.System) : Daemon :=
  daemon.mapWatcher fun watcher =>
    match daemon.manager.map fun manager => Project.watchedDirectory system manager.file with
    | some (.ok directory) => watcher.follow [.start, .run directory (system.isThere directory)]
    | _ => watcher.follow [.start]

/-- The watcher is stopped. -/
def stopWatching (daemon : Daemon) : Daemon :=
  daemon.mapWatcher (·.halt)

/-- The watcher is started, and stopped before its loop has run. -/
def bounceWatching (daemon : Daemon) : Daemon :=
  daemon.mapWatcher fun watcher => (watcher.follow [.start]).halt

/-- The directory that the loop is concerned with. -/
def loopDirectory : Project.Watcher.Loop → Option Path
  | .retrying directory | .subscribed directory | .refreshing directory => some directory
  | .absent | .created => none

/-- Whether the directory that the loop is concerned with is there. -/
def directoryIsThere (system : Files.System) (watcher : Project.Watcher) : Bool :=
  (loopDirectory watcher.loop).any system.isThere

/-- A wait of the loop is over, if it waits. -/
def retryWatching (daemon : Daemon) (system : Files.System) : Daemon :=
  daemon.mapWatcher fun watcher => watcher.follow [.retry (directoryIsThere system watcher)]

/-- The subscription breaks, and the loop looks for the directory again. -/
def breakSubscription (daemon : Daemon) (system : Files.System) : Daemon :=
  (daemon.mapWatcher (·.follow [.fail])).retryWatching system

/-- The subscription comes to its end, and the loop looks for the directory again. -/
def endSubscription (daemon : Daemon) (system : Files.System) : Daemon :=
  daemon.mapWatcher fun watcher => watcher.follow [.finish (directoryIsThere system watcher)]

/-! ## Refreshing -/

/-- A refresh is asked for. It is broken by a fault, or loading has an outcome. -/
def refresh (daemon : Daemon) (trigger : String)
    (outcome : Except Fault (Except Project.LoadFailure Project.State)) :
    Except Fault Bool × Daemon :=
  let asked := { daemon with
    refreshes := daemon.refreshes ++ [(trigger, daemon.watcher.map Project.Watcher.status)] }
  match outcome, asked.manager with
  | .error fault, _ => (.error fault, asked)
  | .ok _, none => (.error .noManager, asked)
  | .ok loaded, some manager =>
    let (succeeded, manager) := manager.refresh loaded
    (.ok succeeded, { asked with manager := some manager })

/-- The trigger of the watcher's refreshes. -/
def watcherTrigger : String := "watcher"

/-- A batch of changes reaches the loop, if it is subscribed: a batch that concerns the definition
file starts a refresh, and one that cannot be looked at breaks the subscription. -/
def deliver (daemon : Daemon) (system : Files.System) (changes : List Project.Change)
    (outcome : Except Fault (Except Project.LoadFailure Project.State)) : Daemon :=
  match daemon.watcher, daemon.manager with
  | some watcher, some manager =>
    match Project.concerns system manager.file changes with
    | .error _ => daemon.breakSubscription system
    | .ok concerned =>
      match watcher.step (.deliver concerned) with
      | none => daemon
      | some watcher =>
        let told := { daemon with watcher := some watcher }
        if concerned then
          (told.refresh watcherTrigger outcome).2.mapWatcher (·.follow [.refreshed])
        else told
  | _, _ => daemon

/-! ## Start and end -/

/-- The daemon that starts with settings, among files. -/
def start (settings : Settings) (system : Files.System) : Except Project.LoadFailure Daemon :=
  match settings.projectFile with
  | none => .error (.fault .noProject)
  | some file =>
    let (loaded, manager) :=
      (Project.Manager.create file).load (loadOutcome settings system file)
    loaded.map fun _ =>
      { unloaded settings file with manager := some manager }.startWatching system

/-- The daemon after it was shut down: nothing is watched and the workers are sent home. -/
def shutDown (daemon : Daemon) : Daemon :=
  let stopped := daemon.stopWatching
  { stopped with service := stopped.service.map (·.close) }

/-! ## Requests -/

/-- A response, and the fault that is behind it if there is one. -/
structure Reply where
  response : Http.Response
  raised : Option Fault

namespace Reply

/-- A response with no fault behind it. -/
def ok (response : Http.Response) : Reply := ⟨response, none⟩

/-- The reply to a fault. -/
def ofFault (fault : Fault) : Reply := ⟨.internalError, some fault⟩

/-- The reply to a request that failed. -/
def ofFailure : Failure → Reply
  | .refused error => .ok (.ofClientError error)
  | .fault fault => ofFault fault
  | .cancelled => .ok .internalError

/-- The reply to a completion. -/
def ofResult : Except Failure (List Item) → Reply
  | .ok items => .ok (.json 200 (.array (items.map Item.toJson)))
  | .error failure => ofFailure failure

end Reply

/-- The completion parameters that a request carries in its headers. -/
def parameters (request : Http.Request) : Request.Headers :=
  ⟨request.header? "x-offset", request.header? "x-path", request.header? "x-prefix",
    request.header? "x-cachekey", request.header? "x-type", request.header? "x-session-prefix"⟩

/-- The reply to a question for the definition file. -/
def replyProject (daemon : Daemon) : Reply :=
  match daemon.manager with
  | none => .ofFault .noManager
  | some manager =>
    match manager.current with
    | .ok state => .ok (.plain state.projectFile)
    | .error fault => .ofFault fault

/-- The reply to a question for the source files. -/
def replyFiles (daemon : Daemon) : Reply :=
  match daemon.service with
  | none => .ofFault .noService
  | some _ =>
    match Service.sourceFiles daemon.current with
    | .ok files => .ok (.json 200 (Json.texts files))
    | .error fault => .ok (.ofClientError (.fileListUnavailable fault.message))

/-- A request is answered at once, or is a completion for the service. -/
inductive Prepared
  | answered (reply : Reply)
  | completion (service : Service) (request : Request)

/-- What a request comes to before the service is asked. Parameters are checked before the service
is looked for. -/
def prepare (daemon : Daemon) (request : Http.Request) : Prepared :=
  match Http.destination request.method request.path with
  | .unknown => .answered (.ok (.ofStatus request.addressedPath 404 ""))
  | .elsewhere path => .answered (.ok (.redirect (request.addressOf path)))
  | .route .ping => .answered (.ok (.plain "OK"))
  | .route .project => .answered daemon.replyProject
  | .route .files => .answered daemon.replyFiles
  | .route .complete =>
    match Request.ofHeaders (parameters request), daemon.service with
    | .error failure, _ => .answered (.ofFailure failure)
    | .ok _, none => .answered (.ofFault .noService)
    | .ok completion, some service => .completion service completion

/-- The completion that is left to the service. -/
def Prepared.completion? : Prepared → Option Request
  | .answered _ => none
  | .completion _ request => some request

/-- Replies in the order of the requests, the results of the completions in theirs. -/
def arrange : List Prepared → List (Except Failure (List Item)) → List Reply
  | [], _ => []
  | .answered reply :: rest, results => reply :: arrange rest results
  | .completion _ _ :: rest, result :: results => .ofResult result :: arrange rest results
  | .completion _ _ :: rest, [] => .ofFailure .cancelled :: arrange rest []

/-- Requests that come together. -/
def serveAll (surroundings : Service.Surroundings) (daemon : Daemon)
    (requests : List Http.Request) : List Reply × Service.Surroundings × Daemon :=
  let prepared := requests.map daemon.prepare
  match daemon.service with
  | none => (arrange prepared [], surroundings, daemon)
  | some service =>
    let (results, surroundings, service) :=
      service.completeAll surroundings daemon.current (prepared.filterMap (·.completion?))
    (arrange prepared results, surroundings, { daemon with service := some service })

/-- One request. -/
def serve (surroundings : Service.Surroundings) (daemon : Daemon) (request : Http.Request) :
    Reply × Service.Surroundings × Daemon :=
  let (replies, surroundings, daemon) := serveAll surroundings daemon [request]
  ((replies.head?).getD (.ofFailure .cancelled), surroundings, daemon)

end Daemon

end CompletionServer
