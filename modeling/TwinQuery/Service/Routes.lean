/-
# The service

The service answers requests from one session and one tracker. Each is made
when it is first needed and kept from then on, and so are the settings; what
fails is tried again at the next request. Mistakes in what was asked for are
answered with status 400, reference documents that cannot be used with status
500 and the reason, and all other faults with status 500 alone. An answer that
cannot be sent, because a number in it has no JSON notation or a text no
encoding, is such a fault too; what was done for it stays done.

A run is a list of events, each a request or a change of the workspace.

Key definitions: `Service`, `Reply`, `Reply.send`, `Route`, `Service.handle`,
`Service.run`.
-/
import TwinQuery.Refresh
import TwinQuery.Service.Target
import TwinQuery.Session

namespace TwinQuery

/-- What the service keeps between requests. -/
structure Service where
  settingsPath : Option Path
  settings : Option Settings := none
  session : Option Session := none
  tracker : Option Tracker := none

/-- The answer to a request: a status with a document, a status alone, the
issues with its body, or a failure without a document. -/
inductive Reply where
  | answer (status : Nat) (body : Doc)
  | bare (status : Nat)
  | invalid (issues : List Issue)
  | failure

/-! ### Answers -/

/-- Whether a scalar can be sent: a number needs a JSON notation, and a text an
encoding. -/
def Scalar.isSendable : Scalar → Bool
  | .float x => x.isFinite
  | .text t => t.isEncodable
  | _ => true

namespace Doc

mutual

/-- Whether a document can be sent: all scalars in it can. -/
def isSendable : Doc → Bool
  | .atom s => s.isSendable
  | .list items => areSendable items
  | .object fields => haveSendable fields
  | .pair first second => isSendable first && isSendable second
  | _ => true

/-- Whether some documents can be sent. -/
def areSendable : List Doc → Bool
  | [] => true
  | item :: items => isSendable item && areSendable items

/-- Whether some fields can be sent, with their names. -/
def haveSendable : List (Scalar × Doc) → Bool
  | [] => true
  | (name, value) :: fields => name.isSendable && isSendable value && haveSendable fields

end

end Doc

namespace Reply

/-- The answer with a document, a failure if the document cannot be sent. -/
def send (status : Nat) (body : Doc) : Reply :=
  if body.isSendable then .answer status body else .failure

/-- The answer that all is well. -/
def ok (body : Doc) : Reply := send 200 body

/-- The answer that something is wrong, with a sentence on it. -/
def detail (status : Nat) (t : Text) : Reply := send status (Doc.record [("detail", .text t)])

/-- The answer to a body that is not taken. Issues are sent with what they are
about. -/
def ofRefusal : Refusal → Reply
  | .issues found => if found.all (·.input.isSendable) then .invalid found else .failure
  | .unreadable => detail 400 "There was an error parsing the body"

/-- The answer to a fault. -/
def ofFault (f : Fault) : Reply :=
  match f with
  | .reference path problem => detail 500 (Fault.message (.reference path problem))
  | f => if f.isBadInput then detail 400 f.message else .failure

/-- The answer to a fault of the tracker: problems with files are told. -/
def ofTrackerFault (f : Fault) : Reply :=
  match f with
  | .file problem path => detail 500 (Fault.message (.file problem path))
  | _ => .failure

end Reply

/-! ### Routes -/

/-- What the service can be asked. -/
inductive Route where
  | health
  | convert
  | convertFrom (source : Language)
  | explain
  | mapping
  | updateMapping
  | discovery
  | refreshStatus
  | refresh

/-- The routes by path and method. -/
def routes : List (Text × Text × Route) :=
  [("/api/health", "GET", .health),
   ("/api/translate", "POST", .convert),
   ("/api/translate/kql-to-spl", "POST", .convertFrom .kql),
   ("/api/translate/spl-to-kql", "POST", .convertFrom .spl),
   ("/api/explain", "POST", .explain),
   ("/api/table-mapping", "GET", .mapping),
   ("/api/table-mapping", "POST", .updateMapping),
   ("/api/discovery", "POST", .discovery),
   ("/api/refresh/status", "GET", .refreshStatus),
   ("/api/refresh", "POST", .refresh)]

/-- A text with every code point changed. -/
def Text.map (change : CodePoint → CodePoint) (t : Text) : Text := List.map change t

/-- What a text begins with, up to the first code point that fails a test. -/
def Text.takeWhile (test : CodePoint → Bool) (t : Text) : Text := List.takeWhile test t

/-- The path of a request as the paths of routes are written, without what follows
a question mark or a number sign. -/
def Request.plainPath (r : Request) : Text :=
  resolveEscapes (dropDots (rooted (dropHost (r.path.takeWhile fun c => c != '?' && c != '#'))))

/-- The method of a request in upper case. -/
def Request.plainMethod (r : Request) : Text := r.method.map CodePoint.toUpper

/-- The routes at a path, by method. -/
def routesAt (path : Text) : List (Text × Route) :=
  (routes.filter fun route => route.1 == path).map Prod.snd

/-- The routes of a request, by method. A path with slashes at its end counts
as the one without them. -/
def Request.routes (r : Request) : List (Text × Route) :=
  match routesAt r.plainPath with
  | [] => routesAt (r.plainPath.reverse.dropWhile (· == CodePoint.char '/')).reverse
  | found => found

namespace Service

/-! ### Parts made on demand -/

/-- The settings, which are loaded if they were not yet. -/
def loadSettings (w : Workspace) (service : Service) : Except Fault (Settings × Service) :=
  match service.settings with
  | some settings => .ok (settings, service)
  | none => do
    let settings ← Settings.load w service.settingsPath
    return (settings, { service with settings := some settings })

/-- The session, which is started if it was not yet. Settings that were loaded
are kept even if the session cannot be started. -/
def startSession (w : Workspace) (service : Service) : Except Fault Session × Service :=
  match service.session with
  | some s => (.ok s, service)
  | none =>
    match service.loadSettings w with
    | .error f => (.error f, service)
    | .ok (settings, service) =>
      match Session.ofSettings w settings with
      | .error f => (.error f, service)
      | .ok s => (.ok s, { service with session := some s })

/-- The tracker, which is made if it was not yet. -/
def startTracker (w : Workspace) (service : Service) : Except Fault Tracker × Service :=
  match service.tracker with
  | some r => (.ok r, service)
  | none =>
    match service.loadSettings w with
    | .error f => (.error f, service)
    | .ok (settings, service) =>
      match Tracker.make settings.statePath settings.refreshDays with
      | .error f => (.error f, service)
      | .ok r => (.ok r, { service with tracker := some r })

/-! ### What routes answer -/

/-- The answer from the session to something it is asked. `onFault` answers
when there is no session. -/
def withSession {α : Type} (w : Workspace) (service : Service) (onFault : Fault → Reply)
    (ask : Session → Except Fault (α × Session)) (tell : α → Reply) : Reply × Service :=
  match service.startSession w with
  | (.error f, service) => (onFault f, service)
  | (.ok s, service) =>
    match ask s with
    | .error f => (.ofFault f, service)
    | .ok (a, s) => (tell a, { service with session := some s })

/-- The answer that all is well with the service. -/
def health : Doc :=
  Doc.record
    [("status", .text "healthy"), ("version", .text "1.0.0"),
     ("components",
      Doc.record [("api", .text "running"), ("translator", .text "available")])]

/-- The answer with a table mapping; all its names must be texts. -/
def mappingReply (m : TableMapping) : Reply :=
  if m.entries.all fun entry => entry.1.text?.isSome then
    .ok (Doc.record [("mapping", m.toDoc), ("version", .int m.version)])
  else .failure

/-- The answer with discovery queries. -/
def queriesReply (queries : List (Text × Text)) : Reply :=
  .ok (Doc.record
    [("queries", Doc.record (queries.map fun (name, query) => (name, .text query)))])

/-- The answer with the status of refreshes. -/
def refreshStatus (w : Workspace) (service : Service) : Reply × Service :=
  match service.startTracker w with
  | (.error _, service) => (.failure, service)
  | (.ok r, service) =>
    match r.status w with
    | .ok d => (.ok d, service)
    | .error _ => (.failure, service)

/-- A refresh of both references. -/
def refresh (w : Workspace) (service : Service) : Reply × Service × Workspace :=
  match service.startTracker w with
  | (.error f, service) => (.ofTrackerFault f, service, w)
  | (.ok r, service) =>
    match r.refreshAll w with
    | .ok (d, w) => (.ok d, service, w)
    | .error f => (.ofTrackerFault f, service, w)

/-- The answer to a body that is as expected, or the issues with it. -/
def withBody {α : Type} (service : Service) (request : Request)
    (read : Doc → Except (List Issue) α) (go : α → Reply × Service) : Reply × Service :=
  match request.document.bind fun d => (read d).mapError Refusal.issues with
  | .ok body => go body
  | .error refusal => (.ofRefusal refusal, service)

/-- The answer of a route that leaves the workspace alone. -/
def answer (w : Workspace) (service : Service) (request : Request) : Route → Reply × Service
  | .health => (.ok health, service)
  | .convert =>
    service.withBody request ConvertBody.ofDoc fun body =>
      service.withSession w (fun _ => .failure)
        (fun s => s.convert w (.text body.query) (.text body.source) (.text body.target))
        fun c => .ok c.toDoc
  | .convertFrom source =>
    service.withBody request QueryBody.ofDoc fun body =>
      service.withSession w (fun _ => .failure) (fun s => s.convertFrom w source (.text body.query))
        fun c => .ok c.toDoc
  | .explain =>
    service.withBody request ExplainBody.ofDoc fun body =>
      service.withSession w .ofFault
        (fun s => s.explain w (.text body.query) (.text body.language))
        fun t => .ok (Doc.record [("explanation", .text t)])
  | .mapping =>
    service.withSession w (fun _ => .failure) (fun s => .ok (s.mapping, s)) mappingReply
  | .updateMapping =>
    service.withBody request MappingBody.ofDoc fun body =>
      service.withSession w .ofFault
        (fun s => (s.setMapping body.toDoc).map fun s => (s.mapping, s)) mappingReply
  | .discovery =>
    service.withBody request DiscoveryBody.ofDoc fun body =>
      service.withSession w (fun _ => .failure)
        (fun s => do return (← discoveryQueries ((body.table.map Doc.text).getD Doc.null), s))
        queriesReply
  | .refreshStatus => service.refreshStatus w
  | .refresh => (.failure, service)

/-- The answer that a request cannot be met; one that asks for no document
gets the status alone. -/
def unmet (method : Text) (status : Nat) (t : Text) : Reply :=
  if method = "HEAD" then .bare status else .detail status t

/-- The answer to a request, and the service and workspace after it. Methods
are the same in upper and lower case. -/
def handle (w : Workspace) (service : Service) (request : Request) :
    Reply × Service × Workspace :=
  match request.routes with
  | [] => (unmet request.plainMethod 404 "Not Found", service, w)
  | found =>
    match found.lookup request.plainMethod with
    | none => (unmet request.plainMethod 405 "Method Not Allowed", service, w)
    | some .refresh => service.refresh w
    | some route =>
      let (reply, service) := service.answer w request route
      (reply, service, w)

/-! ### Runs -/

/-- An event of a run. -/
inductive Event where
  | request (r : Request)
  | change (c : Change)

/-- The service and workspace after an event, and the answer if the event was a
request. -/
def step (w : Workspace) (service : Service) : Event → Workspace × Service × Option Reply
  | .change c => (w.apply c, service, none)
  | .request r =>
    let (reply, service, w) := service.handle w r
    (w, service, some reply)

/-- The service and workspace after a list of events. -/
def run (w : Workspace) (service : Service) : List Event → Workspace × Service
  | [] => (w, service)
  | event :: events =>
    let (w, service, _) := service.step w event
    run w service events

end Service

end TwinQuery
