/-
# Requests to the service

A request carries a JSON body. The body is checked against what its route
expects, and everything wrong with it is reported, in the order in which the
fields are declared: each issue has a kind, a place in the body, and the part
of the body that it is about. A body beyond the limits of the reader is refused
without issues.

Key definitions: `Request`, `Issue`, `Refusal`, `Request.document`, `ConvertBody.ofDoc`,
`QueryBody.ofDoc`, `ExplainBody.ofDoc`, `MappingBody.ofDoc`,
`DiscoveryBody.ofDoc`.
-/
import TwinQuery.Json.Reader
import TwinQuery.TableMapping.Basic

namespace TwinQuery

/-- A request. -/
structure Request where
  method : Text
  path : Text
  body : Text

/-! ### Issues -/

/-- A step on the way to a place in a body. -/
inductive Place where
  | field (name : Text)
  | offset (n : Nat)
deriving DecidableEq

/-- What can be wrong at a place. -/
inductive IssueKind where
  | missing
  | notText
  | notMapping
  | notObject
  | notJson
deriving DecidableEq

/-- The name of a kind of issue. -/
def IssueKind.name : IssueKind → Text
  | .missing => "missing"
  | .notText => "string_type"
  | .notMapping => "dict_type"
  | .notObject => "model_attributes_type"
  | .notJson => "json_invalid"

/-- Something wrong with a body; `input` is what was given, and for a field that
is missing the object that lacks it. -/
structure Issue where
  kind : IssueKind
  place : List Place
  input : Doc

/-- The issues among checks, in order. -/
def issuesOf : List (Option (List Issue)) → List Issue
  | [] => []
  | none :: checks => issuesOf checks
  | some issues :: checks => issues ++ issuesOf checks

/-- The issues of a check that failed. -/
def issues? {α : Type} : Except (List Issue) α → Option (List Issue)
  | .ok _ => none
  | .error issues => some issues

/-! ### Bodies -/

/-- The place of the body itself. -/
def bodyPlace : List Place := [.field "body"]

/-- The text of a body without a byte order mark. -/
def Request.plainBody (r : Request) : Text :=
  match r.body with
  | c :: rest => if c.toNat = 0xFEFF then rest else c :: rest
  | [] => []

/-- Why a body is not taken: for its issues, or because it cannot be read. -/
inductive Refusal where
  | issues (found : List Issue)
  | unreadable

/-- The refusal of a body that is not there. -/
def Refusal.missing : Refusal := .issues [⟨.missing, bodyPlace, Doc.null⟩]

/-- The document in the body of a request. An empty body or null is none. -/
def Request.document (r : Request) : Except Refusal Doc :=
  if r.body.isEmpty then .error .missing
  else
    match Json.read r.plainBody with
    | .ok d => if d.isNull then .error .missing else .ok d
    | .error (.at rest) =>
      let place := bodyPlace ++ [.offset (Json.offsetOf r.plainBody rest)]
      .error (.issues [⟨.notJson, place, .object []⟩])
    | .error _ => .error .unreadable

/-- The fields of an object at a place. -/
def objectAt (place : List Place) (d : Doc) : Except (List Issue) (List (Scalar × Doc)) :=
  match d with
  | .object fields => .ok fields
  | _ => .error [⟨.notObject, place, d⟩]

/-- The first of some names that is a field, with its value. -/
def firstField (fields : List (Scalar × Doc)) : (names : List Text) → Option (Text × Doc)
  | [] => none
  | name :: names =>
    match Fields.get? (.text name) fields with
    | some value => some (name, value)
    | none => firstField fields names

/-- A text at a place. -/
def textAt (place : List Place) (d : Doc) : Except (List Issue) Text :=
  match d with
  | .atom (.text t) => .ok t
  | _ => .error [⟨.notText, place, d⟩]

/-- The text of a field that must be there, under its name or another one. -/
def neededText (place : List Place) (fields : List (Scalar × Doc)) (name : Text)
    (others : List Text) : Except (List Issue) Text :=
  match firstField fields (name :: others) with
  | some (found, value) => textAt (place ++ [.field found]) value
  | none => .error [⟨.missing, place ++ [.field name], .object fields⟩]

/-- The text of a field that may be missing or null. -/
def optionalText (place : List Place) (fields : List (Scalar × Doc)) (name : Text) :
    Except (List Issue) (Option Text) :=
  match Fields.get? (.text name) fields with
  | none => .ok none
  | some (.atom .null) => .ok none
  | some value => (textAt (place ++ [.field name]) value).map some

/-- The text of a field that may be missing, with its default. -/
def textOr (place : List Place) (fields : List (Scalar × Doc)) (name default : Text) :
    Except (List Issue) Text :=
  match Fields.get? (.text name) fields with
  | none => .ok default
  | some value => textAt (place ++ [.field name]) value

/-! ### What routes expect -/

/-- A query with the languages to convert between. -/
structure ConvertBody where
  query : Text
  source : Text
  target : Text

/-- The body of a conversion. -/
def ConvertBody.ofDoc (d : Doc) : Except (List Issue) ConvertBody := do
  let fields ← objectAt bodyPlace d
  let query := neededText bodyPlace fields "query" []
  let source := neededText bodyPlace fields "from" ["from_language"]
  let target := neededText bodyPlace fields "to" ["to_language"]
  match query, source, target with
  | .ok query, .ok source, .ok target => .ok ⟨query, source, target⟩
  | query, source, target => .error (issuesOf [issues? query, issues? source, issues? target])

/-- A query. -/
structure QueryBody where
  query : Text

/-- The body of a conversion in one direction. -/
def QueryBody.ofDoc (d : Doc) : Except (List Issue) QueryBody := do
  let fields ← objectAt bodyPlace d
  return ⟨← neededText bodyPlace fields "query" []⟩

/-- A query with its language. -/
structure ExplainBody where
  query : Text
  language : Text

/-- The body of an explanation. -/
def ExplainBody.ofDoc (d : Doc) : Except (List Issue) ExplainBody := do
  let fields ← objectAt bodyPlace d
  let query := neededText bodyPlace fields "query" []
  let language := neededText bodyPlace fields "language" []
  match query, language with
  | .ok query, .ok language => .ok ⟨query, language⟩
  | query, language => .error (issuesOf [issues? query, issues? language])

/-- The entry of a table at a place. -/
def entryAt (place : List Place) (d : Doc) : Except (List Issue) Entry := do
  let fields ← objectAt place d
  let index := neededText place fields "index" []
  let sourcetype := optionalText place fields "sourcetype"
  let note := textOr place fields "note" []
  match index, sourcetype, note with
  | .ok index, .ok sourcetype, .ok note => .ok ⟨index, sourcetype, note⟩
  | index, sourcetype, note =>
    .error (issuesOf [issues? index, issues? sourcetype, issues? note])

/-- The entries of tables at a place. -/
def entriesAt (place : List Place) :
    List (Scalar × Doc) → Except (List Issue) (List (Scalar × Entry))
  | [] => .ok []
  | (name, value) :: rest =>
    match entryAt (place ++ [.field name.display]) value, entriesAt place rest with
    | .ok entry, .ok entries => .ok ((name, entry) :: entries)
    | entry, entries => .error (issuesOf [issues? entry, issues? entries])

/-- Entries of a table mapping. -/
structure MappingBody where
  entries : List (Scalar × Entry)

/-- The body of an update of the table mapping. -/
def MappingBody.ofDoc (d : Doc) : Except (List Issue) MappingBody := do
  let fields ← objectAt bodyPlace d
  let place := bodyPlace ++ [.field "mapping"]
  match Fields.get? (.text "mapping") fields with
  | none => .error [⟨.missing, place, .object fields⟩]
  | some (.object tables) => return ⟨← entriesAt place tables⟩
  | some other => .error [⟨.notMapping, place, other⟩]

/-- The entries as the document that describes them. -/
def MappingBody.toDoc (b : MappingBody) : Doc :=
  .object (b.entries.map fun (name, entry) => (name, entry.toDoc))

/-- A table to look for, if any. -/
structure DiscoveryBody where
  table : Option Text

/-- The body of a request for discovery queries. -/
def DiscoveryBody.ofDoc (d : Doc) : Except (List Issue) DiscoveryBody := do
  let fields ← objectAt bodyPlace d
  return ⟨← optionalText bodyPlace fields "kql_table"⟩

end TwinQuery
