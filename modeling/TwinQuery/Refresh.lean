/-
# Refresh tracking

The reference documents are refreshed by hand. A tracker keeps the times of
the last refreshes in a state file, tells which reference is stale, and gives
the instructions for a refresh. The state file is a JSON object; keys that
the tracker does not know are kept, and a file that cannot be read counts as
the default state.

A run is a list of events, each an action of the tracker or a change of its
workspace.

Key definitions: `Tracker`, `Tracker.loadState`, `Tracker.saveState`,
`Tracker.needsRefresh`, `Tracker.refresh`, `Tracker.refreshAll`,
`Tracker.status`, `Tracker.run`.
-/
import TwinQuery.Interval
import TwinQuery.Json.Writer
import TwinQuery.Language
import TwinQuery.Time.Reader
import TwinQuery.Workspace.Document

namespace TwinQuery

/-- The state of refresh tracking: the fields of a JSON object. -/
abbrev RefreshState := List (Scalar × Doc)

/-! ### References -/

namespace Language

/-- The key of the last refresh of a reference. -/
def refreshKey : Language → Text
  | .spl => "last_splunk_update"
  | .kql => "last_kql_update"

/-- Where a reference is documented. -/
def sources : Language → List Text
  | .spl =>
    ["https://www.splunk.com/en_us/pdfs/solution-guide/splunk-quick-reference-guide.pdf",
     "https://docs.splunk.com/Documentation/Splunk/latest/SearchReference/"]
  | .kql =>
    ["https://learn.microsoft.com/en-us/kusto/query/kql-quick-reference",
     "https://learn.microsoft.com/en-us/azure/data-explorer/kusto/query/"]

/-- What to do about a reference. -/
def refreshMessage : Language → Text
  | .spl =>
    "Manual refresh required: regenerate splunk_reference.json from the Search Reference"
  | .kql => "Manual refresh required: regenerate kql_reference.json from Microsoft Learn"

/-- How a reference is refreshed by hand. -/
def refreshInstructions : Language → Doc
  | .spl =>
    Doc.record
      [("method", .text "PDF or web page parsing"),
       ("sources", .texts (sources .spl)),
       ("note",
        .text "Results should be merged into splunk_reference.json under 'spl_commands'")]
  | .kql =>
    Doc.record
      [("method", .text "Documentation search"),
       ("sources", .texts (sources .kql)),
       ("topics",
        .texts
          ["KQL tabular operators where extend project summarize",
           "KQL scalar functions string datetime conversion",
           "KQL aggregation functions count sum avg",
           "KQL mv-expand parse extract operators"]),
       ("note", .text "Results should be merged into kql_reference.json under 'kql_operators'")]

end Language

/-- The key that says whether references are refreshed by themselves. -/
def autoRefreshKey : Text := "auto_refresh_enabled"

/-- The state when nothing was refreshed yet. -/
def defaultState : RefreshState :=
  [(.text (Language.refreshKey .spl), Doc.null),
   (.text (Language.refreshKey .kql), Doc.null),
   (.text "splunk_sources", .texts (Language.sources .spl)),
   (.text "kql_sources", .texts (Language.sources .kql)),
   (.text autoRefreshKey, .bool true)]

/-! ### Trackers -/

/-- A tracker: where its state is, and the interval after which a reference is
stale, as it was given and in microseconds. -/
structure Tracker where
  statePath : Path
  days : Doc
  interval : Int

namespace Tracker

/-- A tracker for the given interval in days. -/
def make (statePath : Path) (days : Doc) : Except Fault Tracker := do
  return ⟨statePath, days, ← intervalOfDays days⟩

/-- The fields of the state file, none when it is unreadable or not an
object. -/
def storedState (w : Workspace) (p : Path) : Except Fault RefreshState :=
  match w.readJson p with
  | .ok d => .ok (d.fields?.getD [])
  | .error fault => if fault.isUnreadable then .ok [] else .error fault

/-- The state: the defaults with what the state file holds put in. -/
def loadState (w : Workspace) (r : Tracker) : Except Fault RefreshState := do
  if ← w.pathExists r.statePath then
    return Fields.putAll (← storedState w r.statePath) defaultState
  else return defaultState

/-- The workspace with the state written to its file. -/
def saveState (w : Workspace) (r : Tracker) (state : RefreshState) : Except Fault Workspace := do
  let w ← w.makeDirectories r.statePath.parent
  w.writeText r.statePath (Json.write Json.indented (.object state))

/-- The time that a document states, if it states one. -/
def stampOf? (d : Doc) : Option Stamp :=
  if d.isTruthy then d.text?.bind Stamp.ofText? else none

/-- Whether a refresh at the stated time is too long ago: no time counts as
long ago, and a time without offset is in universal time. -/
def needsRefresh (r : Tracker) (last : Doc) (now : Stamp) : Except Fault Bool :=
  match stampOf? last with
  | none => .ok true
  | some updated =>
    if now.offset.isNone then .error .missingOffset
    else .ok (r.interval < now.instant - updated.instant)

/-! ### Refreshes -/

/-- The workspace in which a refresh at the present time is recorded. -/
def record (w : Workspace) (r : Tracker) (reference : Language) : Except Fault Workspace := do
  let state ← r.loadState w
  r.saveState w (Fields.put (.text reference.refreshKey) (.text w.clock.display) state)

/-- The answer to a refresh: what is left to do by hand. -/
def refreshAnswer (w : Workspace) (reference : Language) : Doc :=
  Doc.record
    [("success", .bool false),
     ("message", .text reference.refreshMessage),
     ("instructions", reference.refreshInstructions),
     ("timestamp", .text w.clock.display)]

/-- A refresh of one reference is recorded and answered. -/
def refresh (w : Workspace) (r : Tracker) (reference : Language) :
    Except Fault (Doc × Workspace) := do
  return (refreshAnswer w reference, ← r.record w reference)

/-- A refresh of both references is recorded and answered. -/
def refreshAll (w : Workspace) (r : Tracker) : Except Fault (Doc × Workspace) := do
  let (kql, w) ← r.refresh w .kql
  let (splunk, w) ← r.refresh w .spl
  return (Doc.record [("kql", kql), ("splunk", splunk), ("timestamp", .text w.clock.display)], w)

/-! ### Status -/

/-- The time of the next refresh after the last one, if there was one. -/
def nextRefresh (r : Tracker) (last : Doc) : Except Fault Text :=
  match stampOf? last with
  | none => .ok "Not scheduled"
  | some t =>
    match t.shift? r.interval with
    | some next => .ok next.display
    | none => .error .dateOutOfRange

/-- The value of a key of the state. -/
def valueOf (state : RefreshState) (key : Text) (default : Doc) : Doc :=
  (Fields.get? (.text key) state).getD default

/-- The status of both references for a loaded state. -/
def statusOf (r : Tracker) (state : RefreshState) (now : Stamp) : Except Fault Doc := do
  let lastKql := valueOf state (Language.refreshKey .kql) Doc.null
  let lastSplunk := valueOf state (Language.refreshKey .spl) Doc.null
  let next ← r.nextRefresh lastKql
  return Doc.record
    [("auto_refresh_enabled", valueOf state autoRefreshKey (.bool true)),
     ("refresh_interval_days", r.days),
     ("last_kql_update", lastKql),
     ("last_splunk_update", lastSplunk),
     ("kql_needs_refresh", .bool (← r.needsRefresh lastKql now)),
     ("splunk_needs_refresh", .bool (← r.needsRefresh lastSplunk now)),
     ("next_scheduled_refresh", .text next)]

/-- The status of both references. -/
def status (w : Workspace) (r : Tracker) : Except Fault Doc := do
  r.statusOf (← r.loadState w) w.clock

/-! ### Runs -/

/-- What a tracker can be asked. -/
inductive Action where
  | loadState
  | saveState (state : RefreshState)
  | needsRefresh (last : Doc) (now : Option Stamp)
  | refresh (reference : Language)
  | refreshAll
  | status

/-- What a tracker answers. -/
inductive Answer where
  | state (state : RefreshState)
  | saved
  | flag (b : Bool)
  | report (d : Doc)

/-- The answer to an action and the workspace after it. -/
def perform (w : Workspace) (r : Tracker) : Action → Except Fault (Answer × Workspace)
  | .loadState => do return (.state (← r.loadState w), w)
  | .saveState state => do return (.saved, ← r.saveState w state)
  | .needsRefresh last now => do return (.flag (← r.needsRefresh last (now.getD w.clock)), w)
  | .refresh reference => do
    let (d, w) ← r.refresh w reference
    return (.report d, w)
  | .refreshAll => do
    let (d, w) ← r.refreshAll w
    return (.report d, w)
  | .status => do return (.report (← r.status w), w)

/-- An event of a run. -/
inductive Event where
  | action (a : Action)
  | change (c : Change)

/-- The workspace after an event, and the answer if the event was an action.
An action that fails leaves the workspace as it was. -/
def step (w : Workspace) (r : Tracker) : Event → Workspace × Option (Except Fault Answer)
  | .change c => (w.apply c, none)
  | .action a =>
    match r.perform w a with
    | .ok (answer, w) => (w, some (.ok answer))
    | .error fault => (w, some (.error fault))

/-- The workspace after a list of events. -/
def run (w : Workspace) (r : Tracker) : List Event → Workspace
  | [] => w
  | event :: events => run (r.step w event).1 r events

end Tracker

end TwinQuery
