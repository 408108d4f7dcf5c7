/-
# Documents in files

A file holds a document in JSON or in YAML. A file whose bytes or whose
notation are wrong is unreadable, and so is one that is no file; what reads
documents often goes on without them then. A document that is beyond the
limits of its reader, or a value in it that does not exist, is a fault of
another kind.

Key definitions: `Fault.isUnreadable`, `Workspace.readJson`,
`Workspace.readYaml`.
-/
import TwinQuery.Json.Reader
import TwinQuery.Workspace.Basic
import TwinQuery.Yaml.Reader

namespace TwinQuery

/-- Whether a fault says that the text of a file is not what it should be.
Dates that do not exist are not among them. -/
def Fault.isUnreadable : Fault → Bool
  | .file _ _ => true
  | .badBytes _ => true
  | .badJson => true
  | .badYaml => true
  | _ => false

/-- The fault of a file whose text is not read. -/
def Json.Mistake.fault : Json.Mistake → Fault
  | .at _ => .badJson
  | .longInteger digits => .integerTooLong (some digits)
  | .deepList => .listTooDeep
  | .deepObject => .objectTooDeep

namespace Workspace

/-- The document of a JSON file. -/
def readJson (w : Workspace) (p : Path) : Except Fault Doc := do
  (Json.read (← w.readText p)).mapError Json.Mistake.fault

/-- The document of a YAML file, where what counts as false is an empty
object. -/
def readYaml (w : Workspace) (p : Path) : Except Fault Doc := do
  let d ← Yaml.read (← w.readText p)
  return if d.isTruthy then d else .object []

end Workspace

end TwinQuery
