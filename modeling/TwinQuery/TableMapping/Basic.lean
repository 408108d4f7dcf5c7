/-
# Table mappings

A table mapping says where the events of a KQL table live in Splunk: the
index, possibly the source type, and a note. It always has an entry named
`default`. Mappings are values: an update gives a new mapping with the next
version number, entry by entry, and a name that is already there keeps its
place.

A name is resolved to the entry of exactly that name, else to the first entry
whose name is equal in lower case, else to the default entry. Names read from
a file may be scalars other than texts; such a name has no lower case, and a
search that comes to it fails, except for bytes, which are equal to no text.

Key definitions: `Entry`, `EntryValue`, `TableMapping`, `TableMapping.resolve`,
`TableMapping.overlay`, `TableMapping.merge`, `TableMapping.mergeRows`.
-/
import TwinQuery.Fault
import TwinQuery.Text.Case

namespace TwinQuery

/-- Where the events of a table live. -/
structure Entry where
  index : Text
  sourcetype : Option Text
  note : Text
deriving DecidableEq

/-- The name of the entry for tables that have none. -/
def defaultName : Text := "default"

namespace Entry

/-- The fields of a document whose values are written into its entry. -/
def writtenFields : List Text := ["index", "sourcetype", "note"]

/-- Whether a field that is written into the entry has an integer that is too
long for it. -/
def isTooLong (d : Doc) : Bool :=
  writtenFields.any fun name => (d.field? name).any Doc.hasLongInteger

/-- The fault of an entry without an index, unless its name is an integer that
is too long to be told. -/
def withoutIndex (name : Scalar) : Fault :=
  if name.isLongInteger then .integerTooLong none else .entryWithoutIndex name.display

/-- The entry that a document describes: an object with a true index. A source
type that is null or empty is none, and a note that is null is empty. -/
def ofDoc (name : Scalar) (d : Doc) : Except Fault Entry :=
  match d.field? "index" with
  | none => .error (withoutIndex name)
  | some index =>
    if index.isTruthy then
      let sourcetype : Option Text :=
        match d.field? "sourcetype" with
        | none => none
        | some (.atom .null) => none
        | some (.atom (.text [])) => none
        | some value => some value.display
      let note : Text :=
        match d.field? "note" with
        | none => []
        | some (.atom .null) => []
        | some value => value.display
      if isTooLong d then .error (.integerTooLong none)
      else .ok ⟨index.display, sourcetype, note⟩
    else .error (withoutIndex name)

/-- The source type as a document. -/
def sourcetypeDoc (e : Entry) : Doc := (e.sourcetype.map Doc.text).getD Doc.null

/-- The document that describes an entry. -/
def toDoc (e : Entry) : Doc :=
  Doc.record [("index", .text e.index), ("sourcetype", e.sourcetypeDoc), ("note", .text e.note)]

end Entry

/-- What an update gives under a name: a document that describes an entry, or
an entry, which is taken as it is. -/
inductive EntryValue where
  | doc (d : Doc)
  | entry (e : Entry)

/-- The entry that a value gives. -/
def Entry.ofValue (name : Scalar) : EntryValue → Except Fault Entry
  | .doc d => ofDoc name d
  | .entry e => .ok e

/-- The entries of the rows of an update, in order. -/
def entriesOfRows (rows : List (Scalar × EntryValue)) : Except Fault (List (Scalar × Entry)) :=
  rows.mapM fun (name, value) => return (name, ← Entry.ofValue name value)

/-- The entries that a document describes, one for each field, in order. What
counts as false describes none. -/
def entriesOfDoc (d : Doc) : Except Fault (List (Scalar × Entry)) :=
  match d with
  | .object fields => entriesOfRows (fields.map (Prod.map id .doc))
  | other => if other.isTruthy then .error (.mappingNotObject other.kind) else .ok []

/-- A table mapping with its version. -/
structure TableMapping where
  entries : List (Scalar × Entry)
  version : Int
  hasDefault : (Fields.get? (.text defaultName) entries).isSome

namespace TableMapping

/-- The mapping of the given entries, if a default is among them. -/
def ofEntries (version : Int) (entries : List (Scalar × Entry)) : Except Fault TableMapping :=
  if h : (Fields.get? (.text defaultName) entries).isSome then .ok ⟨entries, version, h⟩
  else .error .noDefaultEntry

/-- The number of entries. -/
def size (m : TableMapping) : Nat := m.entries.length

/-- The entry for tables that have none. -/
def fallback (m : TableMapping) : Entry :=
  (Fields.get? (.text defaultName) m.entries).get m.hasDefault

/-- The entry of exactly the given name. -/
def find? (m : TableMapping) (name : Scalar) : Option Entry := Fields.get? name m.entries

/-- The first name in the list that is equal to `name`, which is in lower
case. -/
def matchLower (name : Text) : List (Scalar × Entry) → Except Fault (Option (Text × Entry))
  | [] => .ok none
  | (.text key, entry) :: rest =>
    if Text.lower key = name then .ok (some (key, entry)) else matchLower name rest
  | (.bytes _, _) :: rest => matchLower name rest
  | (key, _) :: _ => .error (.tableNotText key.kind)

/-- The entry of a table, and whether it is the default one. -/
def resolve (m : TableMapping) (name : Text) : Except Fault (Entry × Bool) :=
  match m.find? (.text name) with
  | some entry => .ok (entry, name == defaultName)
  | none => do
    match ← matchLower (Text.lower name) m.entries with
    | some (key, entry) => .ok (entry, key == defaultName)
    | none => .ok (m.fallback, true)

/-- The entry of the table that a document names. -/
def resolveDoc (m : TableMapping) (table : Doc) : Except Fault (Entry × Bool) :=
  m.resolve table.display

/-- Whether there is an entry of exactly the name that a document is; only
scalars are names. -/
def contains (m : TableMapping) (table : Doc) : Except Fault Bool :=
  match table with
  | .atom name => .ok (m.find? name).isSome
  | other => .error (.notAKey other.kind)

/-- The mapping with the given entries put in, in the next version. -/
def overlay (m : TableMapping) (updates : List (Scalar × Entry)) : TableMapping :=
  ⟨Fields.putAll updates m.entries, m.version + 1, Fields.isSome_get?_putAll updates m.hasDefault⟩

/-- The mapping with the entries that a document describes put in. -/
def merge (m : TableMapping) (d : Doc) : Except Fault TableMapping := do
  return m.overlay (← entriesOfDoc d)

/-- The mapping with rows put in of which some may be entries already. -/
def mergeRows (m : TableMapping) (rows : List (Scalar × EntryValue)) :
    Except Fault TableMapping := do
  return m.overlay (← entriesOfRows rows)

/-- The document that describes a mapping. -/
def toDoc (m : TableMapping) : Doc :=
  .object (m.entries.map fun (name, entry) => (name, entry.toDoc))

end TableMapping

end TwinQuery
