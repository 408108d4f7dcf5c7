/-
# Reading vocabularies

A vocabulary is read from two reference documents in JSON, one for each
language. Each has a section with an object for every verb, which holds the
equivalent in the other language and a description. There is nothing to fall
back on: a document that is missing or malformed is a fault.

Key definitions: `ReferenceDocument`, `ReferenceDocument.read`,
`Vocabulary.load`.
-/
import TwinQuery.Vocabulary.Bundled
import TwinQuery.Workspace.Document

namespace TwinQuery

/-- How a reference document is laid out. -/
structure ReferenceDocument where
  fileName : Text
  sectionName : Text
  equivalentKey : Text

/-- The reference document on SPL. -/
def splDocument : ReferenceDocument := ⟨"splunk_reference.json", "spl_commands", "kql_equivalent"⟩

/-- The reference document on KQL. -/
def kqlDocument : ReferenceDocument := ⟨"kql_reference.json", "kql_operators", "spl_equivalent"⟩

namespace ReferenceDocument

/-- The verb that an object describes. A key named for the language counts
before the general one. -/
def verb (r : ReferenceDocument) (d : Doc) : Verb :=
  ⟨((d.field? r.equivalentKey).or (d.field? "equivalent")).getD (.text []),
    (d.field? "description").getD (.text [])⟩

/-- The verbs of a section; each must be an object. -/
def verbs (r : ReferenceDocument) (path : Text) :
    List (Scalar × Doc) → Except Fault VerbTable
  | [] => .ok []
  | (name, .object fields) :: rest => do
    return (name.display, r.verb (.object fields)) :: (← verbs r path rest)
  | (name, _) :: _ => .error (.reference path (.badEntry name.display))

/-- The verbs of a document; it must have the section. -/
def ofDoc (r : ReferenceDocument) (path : Text) (d : Doc) : Except Fault VerbTable :=
  match d.field? r.sectionName with
  | some (.object fields) => r.verbs path fields
  | _ => .error (.reference path (.noSection r.sectionName))

/-- The document that a file holds. -/
def content (w : Workspace) (p : Path) : Except Fault Doc :=
  (w.readJson p).mapError fun fault =>
    if fault.isUnreadable then .reference p.display (.unreadable fault.message) else fault

/-- The verbs of the document in a directory. -/
def read (w : Workspace) (directory : Path) (r : ReferenceDocument) : Except Fault VerbTable := do
  let p := directory.child r.fileName
  if ← w.pathExists p then r.ofDoc p.display (← content w p)
  else .error (.reference p.display .missing)

end ReferenceDocument

/-- The vocabulary in a directory, or the bundled one. -/
def Vocabulary.load (w : Workspace) : (directory : Option Path) → Except Fault Vocabulary
  | none => .ok (.bundled w.clock)
  | some directory => do
    let spl ← splDocument.read w directory
    let kql ← kqlDocument.read w directory
    return ⟨spl, kql, w.clock⟩

end TwinQuery
