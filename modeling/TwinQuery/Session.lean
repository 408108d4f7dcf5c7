/-
# Sessions

A session converts and explains queries with one table mapping and one
vocabulary. The vocabulary is loaded when it is first needed and kept from
then on; a load that fails leaves it unset. The mapping changes only by
successful updates. Whatever fails leaves the session as it was.

A run is a list of events, each an action of the session or a change of its
workspace.

Key definitions: `Session`, `Session.ofSettings`, `Session.perform`,
`Session.run`.
-/
import TwinQuery.Conversion.Result
import TwinQuery.Explanation
import TwinQuery.Interval
import TwinQuery.Settings
import TwinQuery.Vocabulary.Reader

namespace TwinQuery

/-- A session: its table mapping, what names the directory of its reference
documents, the interval in microseconds after which they are stale, and the
vocabulary once it is loaded. -/
structure Session where
  mapping : TableMapping
  referenceDir : Doc
  interval : Int
  vocabulary : Option Vocabulary

namespace Session

/-! ### Starting a session -/

/-- A session with the given mapping. -/
def withMapping (m : TableMapping) (referenceDir days : Doc) :
    Except Fault Session := do
  return ⟨m, referenceDir, ← intervalOfDays days, none⟩

/-- A session whose mapping is described by a document; what counts as false
describes the defaults. -/
def start (entries referenceDir days : Doc) : Except Fault Session := do
  let m ← if entries.isTruthy then TableMapping.defaults.merge entries else .ok .defaults
  withMapping m referenceDir days

/-- A session with the given settings. -/
def ofSettings (w : Workspace) (settings : Settings) : Except Fault Session := do
  let m ← TableMapping.withFile w settings.mappingPath
  withMapping m settings.referenceDir settings.refreshDays

/-! ### What a session does -/

/-- The vocabulary, which is loaded if it was not yet; only then must the
directory be a text. -/
def loadVocabulary (w : Workspace) (s : Session) : Except Fault (Vocabulary × Session) :=
  match s.vocabulary with
  | some v => .ok (v, s)
  | none => do
    let v ← Vocabulary.load w (← Path.ofDoc? s.referenceDir)
    return (v, { s with vocabulary := some v })

/-- The conversion of a query in the given language to the other one. -/
def convertFrom (w : Workspace) (s : Session) (source : Language) (query : Doc) :
    Except Fault (Conversion × Session) := do
  let query ← queryText query
  let (v, s) ← s.loadVocabulary w
  return (TwinQuery.convertFrom v s.mapping source query, s)

/-- The conversion of a query between the languages that two documents name. -/
def convert (w : Workspace) (s : Session) (query source target : Doc) :
    Except Fault (Conversion × Session) := do
  s.convertFrom w (← sourceLanguage source target) query

/-- A query in plain English. -/
def explain (w : Workspace) (s : Session) (query language : Doc) :
    Except Fault (Text × Session) := do
  let query ← queryText query
  let language ← Language.ofDoc language
  let (v, s) ← s.loadVocabulary w
  return (TwinQuery.explain v language query, s)

/-- The session with the entries that a document describes put into its
mapping. -/
def setMapping (s : Session) (entries : Doc) : Except Fault Session := do
  return { s with mapping := ← s.mapping.merge entries }

/-- Whether the vocabulary is missing or was loaded longer ago than the
interval. -/
def needsUpdate (s : Session) (now : Stamp) : Except Fault Bool :=
  match s.vocabulary with
  | none => .ok true
  | some v =>
    if now.offset.isNone then .error .missingOffset
    else .ok (s.interval < now.instant - v.loadedAt.instant)

/-! ### Runs -/

/-- What a session can be asked. -/
inductive Action where
  | convert (query source target : Doc)
  | convertFrom (source : Language) (query : Doc)
  | explain (query language : Doc)
  | setMapping (entries : Doc)
  | mapping
  | resolve (table : Doc)
  | discover (table : Doc)
  | vocabulary
  | needsUpdate (now : Option Stamp)

/-- What a session answers. -/
inductive Answer where
  | conversion (c : Conversion)
  | explanation (t : Text)
  | mapping (m : TableMapping)
  | resolved (e : Entry) (usedDefault : Bool)
  | queries (queries : List (Text × Text))
  | vocabulary (v : Vocabulary)
  | flag (b : Bool)

/-- The answer to an action and the session after it. -/
def perform (w : Workspace) (s : Session) : Action → Except Fault (Answer × Session)
  | .convert query source target => do
    let (c, s) ← s.convert w query source target
    return (.conversion c, s)
  | .convertFrom source query => do
    let (c, s) ← s.convertFrom w source query
    return (.conversion c, s)
  | .explain query language => do
    let (t, s) ← s.explain w query language
    return (.explanation t, s)
  | .setMapping entries => do
    let s ← s.setMapping entries
    return (.mapping s.mapping, s)
  | .mapping => .ok (.mapping s.mapping, s)
  | .resolve table => do
    let (entry, usedDefault) ← s.mapping.resolveDoc table
    return (.resolved entry usedDefault, s)
  | .discover table => do return (.queries (← discoveryQueries table), s)
  | .vocabulary => do
    let (v, s) ← s.loadVocabulary w
    return (.vocabulary v, s)
  | .needsUpdate now => do return (.flag (← s.needsUpdate (now.getD w.clock)), s)

/-- An event of a run. -/
inductive Event where
  | action (a : Action)
  | change (c : Change)

/-- The workspace and the session after an event, and the answer if the event
was an action. -/
def step (w : Workspace) (s : Session) :
    Event → Workspace × Session × Option (Except Fault Answer)
  | .change c => (w.apply c, s, none)
  | .action a =>
    match s.perform w a with
    | .ok (answer, s) => (w, s, some (.ok answer))
    | .error fault => (w, s, some (.error fault))

/-- The workspace and the session after a list of events. -/
def run (w : Workspace) (s : Session) : List Event → Workspace × Session
  | [] => (w, s)
  | event :: events =>
    let (w, s, _) := s.step w event
    run w s events

end Session

end TwinQuery
