/-
# Settings

Settings are read from a YAML file with a section for the conversion and one
for the service; what is missing has a default. Paths in the file must be
texts; the other values are taken as they are and checked where they are used.

Key definitions: `Settings`, `Settings.ofDoc`, `Settings.load`.
-/
import TwinQuery.TableMapping.Reader

namespace TwinQuery

/-- The settings of the program. The directory of the reference documents is
the document that names it, null for the bundled ones. -/
structure Settings where
  referenceDir : Doc := Doc.null
  mappingPath : Path := .ofText "splunk-mappings.json"
  refreshDays : Doc := .int 7
  statePath : Path := .ofText "data/refresh_state.json"
  logLevel : Doc := .text "INFO"
  apiHost : Doc := .text "127.0.0.1"
  apiPort : Doc := .int 8000

namespace Settings

/-- The settings when nothing is configured. -/
def defaults : Settings := {}

/-- The fields of a document, which must be an object. -/
def objectFields (d : Doc) : Except Fault (List (Scalar × Doc)) :=
  match d with
  | .object fields => .ok fields
  | other => .error (.sectionNotObject other.kind)

/-- The value of a setting, or its default. -/
def value (fields : List (Scalar × Doc)) (name : Text) (default : Doc) : Doc :=
  (Fields.get? (.text name) fields).getD default

/-- The fields of a section, which must be an object. A section may be the
whole object again. -/
def sectionFields (sections : List (Scalar × Doc)) (name : Text) :
    Except Fault (List (Scalar × Doc)) :=
  match value sections name (.object []) with
  | .enclosing _ => .ok sections
  | d => objectFields d

/-- The path of a setting, or its default. -/
def path (fields : List (Scalar × Doc)) (name : Text) (default : Path) : Except Fault Path :=
  match Fields.get? (.text name) fields with
  | some d => Path.ofDoc d
  | none => .ok default

/-- The text of the path that names a directory; what counts as false names
none. -/
def directory (d : Doc) : Except Fault Doc := do
  return ((← Path.ofDoc? d).map fun p => Doc.text p.display).getD Doc.null

/-- The settings that a document holds. -/
def ofDoc (d : Doc) : Except Fault Settings := do
  let sections ← objectFields d
  let conversion ← sectionFields sections "translator"
  let referenceDir ← directory (value conversion "reference_dir" Doc.null)
  let mappingPath ← path conversion "table_mapping_path" defaults.mappingPath
  let statePath ← path conversion "refresh_state_path" defaults.statePath
  let service ← sectionFields sections "api"
  return {
    referenceDir := referenceDir
    mappingPath := mappingPath
    refreshDays := value conversion "refresh_interval_days" defaults.refreshDays
    statePath := statePath
    logLevel := value conversion "log_level" defaults.logLevel
    apiHost := value service "host" defaults.apiHost
    apiPort := value service "port" defaults.apiPort }

/-- The settings in a file, or the defaults when there is no such file. -/
def read (w : Workspace) (p : Path) : Except Fault Settings := do
  if ← w.pathExists p then ofDoc (← w.readYaml p) else return defaults

/-- The settings in the file of the given path, or the defaults when no path is
given. -/
def load (w : Workspace) : (p : Option Path) → Except Fault Settings
  | none => .ok defaults
  | some p => read w p

end Settings

end TwinQuery
