/-
# Reading table mappings

A mapping file holds an object in JSON, or in YAML if its name says so. A file
that is missing, unreadable or not an object is passed over. What it
describes is laid over the default mapping, all of it or nothing. In YAML a
value may be the whole object again.

Key definitions: `readMappingFile`, `TableMapping.withFile`.
-/
import TwinQuery.TableMapping.Defaults
import TwinQuery.Workspace.Document

namespace TwinQuery

/-- Whether a path names a YAML file. -/
def Path.isYaml (p : Path) : Bool :=
  Text.lower p.suffix == Text.ofString ".yaml" || Text.lower p.suffix == Text.ofString ".yml"

/-- The document that a mapping file holds. -/
def mappingDocument (w : Workspace) (p : Path) : Except Fault Doc :=
  if p.isYaml then w.readYaml p else w.readJson p

/-- The fields of an object, where a value that is the object itself stands as
that object. -/
def Fields.unrolled (fields : List (Scalar × Doc)) : List (Scalar × Doc) :=
  fields.map fun (name, value) =>
    match value with
    | .enclosing _ => (name, .object fields)
    | value => (name, value)

/-- The fields of a mapping file, or none when it is to be passed over. -/
def readMappingFile (w : Workspace) (p : Path) : Except Fault (Option (List (Scalar × Doc))) := do
  if ← w.pathExists p then
    match mappingDocument w p with
    | .ok d => .ok (d.fields?.map Fields.unrolled)
    | .error fault => if fault.isUnreadable then .ok none else .error fault
  else .ok none

/-- The default mapping with the entries of a mapping file, if there are any
and every one of them has an index. -/
def TableMapping.withFields : Option (List (Scalar × Doc)) → TableMapping
  | none => .defaults
  | some [] => .defaults
  | some fields =>
    match TableMapping.defaults.merge (.object fields) with
    | .ok m => m
    | .error _ => .defaults

/-- The default mapping with a mapping file laid over it. -/
def TableMapping.withFile (w : Workspace) (p : Path) : Except Fault TableMapping := do
  return .withFields (← readMappingFile w p)

end TwinQuery
