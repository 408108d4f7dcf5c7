/-
# What requests ask

A request asks the session something if its body is what its route expects.
What it asks is said here in terms of the document that is posted alone
(`Request.call?`): which texts stand under which names, and for an update which
tables are posted with which entries (`Doc.tablesPosted?`). The service reads
bodies in another way, because it looks for everything that is wrong with one,
but what it takes from them is the same (`Request.call?_eq_callRead?`).

Tables that are posted have texts for names (`Request.keys_tables?`), and the
mapping takes them if all of them have an index
(`TableMapping.merge_tablesDoc_eq_ok_iff`); then each has the entry that was
posted for it (`TableMapping.takes_putTables`).

Key definitions: `Doc.textAt?`, `Doc.entryPosted?`, `Doc.tablesPosted?`,
`Request.call?`, `Request.update?`, `TableMapping.Takes`.
Key theorems: `Request.call?_eq_callRead?`, `Request.exists_update?_of_merge`,
`Request.merge_of_update?`.
-/
import TwinQuery.Proofs.JsonReading
import TwinQuery.Proofs.MappingExport
import TwinQuery.Service.Routes

namespace TwinQuery

/-! ### What is posted -/

namespace Doc

/-- The text at the first of some names that an object has. -/
def textAt? (names : List Text) (d : Doc) : Option Text := (names.findSome? d.field?).bind text?

/-- The text at a name of an object, which may be missing or null. -/
def maybeTextAt? (name : Text) (d : Doc) : Option (Option Text) :=
  d.fields?.bind fun fields =>
    match Fields.get? (.text name) fields with
    | none => some none
    | some value => if value.isNull then some none else value.text?.map some

/-- The entry that is posted for a table: it has an index, it may have a source
type, and its note is empty unless there is one. -/
def entryPosted? (d : Doc) : Option Entry := do
  let index ← d.textAt? ["index"]
  let sourcetype ← d.maybeTextAt? "sourcetype"
  let note ← ((d.field? "note").getD (.text [])).text?
  return ⟨index, sourcetype, note⟩

/-- The tables that are posted, with their entries, in order. -/
def tablesPosted? (d : Doc) : Option (List (Scalar × Entry)) := do
  let tables ← (← d.field? "mapping").fields?
  tables.mapM fun table => table.2.entryPosted?.map (table.1, ·)

end Doc

/-- The update that gives tables their entries. -/
def tablesDoc (tables : List (Scalar × Entry)) : Doc :=
  .object (tables.map (Prod.map id Entry.toDoc))

namespace Request

/-- The route of a request, if there is one. -/
def route? (r : Request) : Option Route := r.routes.lookup r.plainMethod

/-- The document that a request posts, if there is one. -/
def posted? (r : Request) : Option Doc := r.document.toOption

/-- The tables that a request posts, with their entries. -/
def tables? (r : Request) : Option (List (Scalar × Entry)) := r.posted?.bind Doc.tablesPosted?

/-- What a request asks of the session, if its body is as its route expects. -/
def call? (r : Request) : Option Session.Action :=
  match r.route? with
  | some .convert => do
    let d ← r.posted?
    return .convert (.text (← d.textAt? ["query"])) (.text (← d.textAt? ["from", "from_language"]))
      (.text (← d.textAt? ["to", "to_language"]))
  | some (.convertFrom source) => do
    let d ← r.posted?
    return .convertFrom source (.text (← d.textAt? ["query"]))
  | some .explain => do
    let d ← r.posted?
    return .explain (.text (← d.textAt? ["query"])) (.text (← d.textAt? ["language"]))
  | some .mapping => some .mapping
  | some .updateMapping => r.tables?.map fun tables => .setMapping (tablesDoc tables)
  | some .discovery => do
    let d ← r.posted?
    return .discover (((← d.maybeTextAt? "kql_table").map Doc.text).getD Doc.null)
  | _ => none

/-- The tables that a request puts into the mapping: those that an update posts, if
all of them have an index. -/
def update? (r : Request) : Option (List (Scalar × Entry)) :=
  match r.route? with
  | some .updateMapping =>
    r.tables?.filter fun tables => tables.all fun table => !table.2.index.isEmpty
  | _ => none

/-- Whether a request is for the tracker. -/
def isForTracker (r : Request) : Bool :=
  match r.route? with
  | some .refreshStatus => true
  | some .refresh => true
  | _ => false

/-- Whether a request needs the settings. -/
def readsSettings (r : Request) : Bool := r.call?.isSome || r.isForTracker

/-! ### How bodies are read -/

/-- What the body of a request says, if it is taken. -/
def body? {α : Type} (r : Request) (read : Doc → Except (List Issue) α) : Option α :=
  (r.document.bind fun d => (read d).mapError Refusal.issues).toOption

/-- What a request asks of the session, as its body is read. -/
def callRead? (r : Request) : Option Session.Action :=
  match r.route? with
  | some .convert =>
    (r.body? ConvertBody.ofDoc).map fun body =>
      .convert (.text body.query) (.text body.source) (.text body.target)
  | some (.convertFrom source) =>
    (r.body? QueryBody.ofDoc).map fun body => .convertFrom source (.text body.query)
  | some .explain =>
    (r.body? ExplainBody.ofDoc).map fun body => .explain (.text body.query) (.text body.language)
  | some .mapping => some .mapping
  | some .updateMapping => (r.body? MappingBody.ofDoc).map fun body => .setMapping body.toDoc
  | some .discovery =>
    (r.body? DiscoveryBody.ofDoc).map fun body =>
      .discover ((body.table.map Doc.text).getD Doc.null)
  | _ => none

theorem body?_eq_bind {α : Type} (r : Request) (read : Doc → Except (List Issue) α) :
    r.body? read = r.posted?.bind fun d => (read d).toOption := by
  unfold body? posted?
  cases r.document with
  | error refusal => rfl
  | ok d =>
    show ((read d).mapError Refusal.issues).toOption = (read d).toOption
    cases read d <;> rfl

end Request

theorem toOption_textAt (place : List Place) (d : Doc) : (textAt place d).toOption = d.text? := by
  cases d with
  | atom s => cases s <;> rfl
  | _ => rfl

theorem map_snd_firstField (fields : List (Scalar × Doc)) : ∀ names : List Text,
    (firstField fields names).map Prod.snd = names.findSome? (Doc.object fields).field?
  | [] => rfl
  | name :: names => by
    have hfield : (Doc.object fields).field? name = Fields.get? (.text name) fields := rfl
    rw [firstField, List.findSome?_cons, hfield]
    cases Fields.get? (.text name) fields with
    | some value => rfl
    | none => exact map_snd_firstField fields names

theorem toOption_neededText (place : List Place) (fields : List (Scalar × Doc)) (name : Text)
    (others : List Text) :
    (neededText place fields name others).toOption =
      (Doc.object fields).textAt? (name :: others) := by
  rw [Doc.textAt?, ← map_snd_firstField, neededText]
  cases firstField fields (name :: others) with
  | none => rfl
  | some found => exact toOption_textAt _ found.2

theorem toOption_optionalText (place : List Place) (fields : List (Scalar × Doc)) (name : Text) :
    (optionalText place fields name).toOption = (Doc.object fields).maybeTextAt? name := by
  show _ = Option.bind (some fields) _
  rw [Option.bind_some, optionalText]
  cases Fields.get? (.text name) fields with
  | none => rfl
  | some value =>
    cases value with
    | atom s => cases s <;> rfl
    | _ => rfl

theorem toOption_textOr (place : List Place) (fields : List (Scalar × Doc)) (name default : Text) :
    (textOr place fields name default).toOption =
      (((Doc.object fields).field? name).getD (.text default)).text? := by
  have hfield : (Doc.object fields).field? name = Fields.get? (.text name) fields := rfl
  rw [hfield, textOr]
  cases Fields.get? (.text name) fields with
  | none => rfl
  | some value => exact toOption_textAt _ value

theorem toOption_convertBody (d : Doc) :
    (ConvertBody.ofDoc d).toOption = do
      let query ← d.textAt? ["query"]
      let source ← d.textAt? ["from", "from_language"]
      let target ← d.textAt? ["to", "to_language"]
      return ⟨query, source, target⟩ := by
  cases d with
  | object fields =>
    simp only [← toOption_neededText bodyPlace, ConvertBody.ofDoc, objectAt, bind, Except.bind]
    cases neededText bodyPlace fields "query" [] <;>
      cases neededText bodyPlace fields "from" ["from_language"] <;>
        cases neededText bodyPlace fields "to" ["to_language"] <;> rfl
  | _ => rfl

theorem toOption_queryBody (d : Doc) :
    (QueryBody.ofDoc d).toOption = do
      let query ← d.textAt? ["query"]
      return ⟨query⟩ := by
  cases d with
  | object fields =>
    simp only [← toOption_neededText bodyPlace, QueryBody.ofDoc, objectAt, bind, Except.bind]
    cases neededText bodyPlace fields "query" [] <;> rfl
  | _ => rfl

theorem toOption_explainBody (d : Doc) :
    (ExplainBody.ofDoc d).toOption = do
      let query ← d.textAt? ["query"]
      let language ← d.textAt? ["language"]
      return ⟨query, language⟩ := by
  cases d with
  | object fields =>
    simp only [← toOption_neededText bodyPlace, ExplainBody.ofDoc, objectAt, bind, Except.bind]
    cases neededText bodyPlace fields "query" [] <;>
      cases neededText bodyPlace fields "language" [] <;> rfl
  | _ => rfl

theorem toOption_discoveryBody (d : Doc) :
    (DiscoveryBody.ofDoc d).toOption = do
      let table ← d.maybeTextAt? "kql_table"
      return ⟨table⟩ := by
  cases d with
  | object fields =>
    simp only [← toOption_optionalText bodyPlace, DiscoveryBody.ofDoc, objectAt, bind, Except.bind]
    cases optionalText bodyPlace fields "kql_table" <;> rfl
  | _ => rfl

theorem toOption_entryAt (place : List Place) (d : Doc) :
    (entryAt place d).toOption = d.entryPosted? := by
  cases d with
  | object fields =>
    simp only [Doc.entryPosted?, ← toOption_neededText place, ← toOption_optionalText place,
      ← toOption_textOr place, entryAt, objectAt, bind, Except.bind]
    cases neededText place fields "index" [] <;> cases optionalText place fields "sourcetype" <;>
      cases textOr place fields "note" [] <;> rfl
  | _ => rfl

theorem toOption_entriesAt (place : List Place) : ∀ tables : List (Scalar × Doc),
    (entriesAt place tables).toOption =
      tables.mapM fun table => table.2.entryPosted?.map (table.1, ·)
  | [] => rfl
  | (name, value) :: tables => by
    have hentry := toOption_entryAt (place ++ [.field name.display]) value
    have hrest := toOption_entriesAt place tables
    rw [List.mapM_cons, ← hentry, ← hrest, entriesAt]
    cases entryAt (place ++ [.field name.display]) value <;> cases entriesAt place tables <;> rfl

theorem toOption_mappingBody (d : Doc) :
    (MappingBody.ofDoc d).toOption = do
      let tables ← d.tablesPosted?
      return ⟨tables⟩ := by
  cases d with
  | object fields =>
    have hfield : (Doc.object fields).field? "mapping" = Fields.get? (.text "mapping") fields := rfl
    rw [Doc.tablesPosted?, hfield]
    simp only [MappingBody.ofDoc, objectAt, bind, Except.bind]
    cases Fields.get? (.text "mapping") fields with
    | none => rfl
    | some value =>
      cases value with
      | object tables =>
        have hrows := toOption_entriesAt (bodyPlace ++ [.field "mapping"]) tables
        show _ = Option.bind (tables.mapM _) _
        rw [← hrows]
        simp only
        cases entriesAt (bodyPlace ++ [.field "mapping"]) tables <;> rfl
      | _ => rfl
  | _ => rfl

/-- **What is taken from a body is what was posted.** -/
theorem Request.call?_eq_callRead? (r : Request) : r.call? = r.callRead? := by
  unfold call? callRead?
  cases r.route? with
  | none => rfl
  | some route =>
    cases route with
    | convert =>
      simp only [body?_eq_bind, toOption_convertBody]
      cases r.posted? <;> simp
    | convertFrom source =>
      simp only [body?_eq_bind, toOption_queryBody]
      cases r.posted? <;> simp
    | explain =>
      simp only [body?_eq_bind, toOption_explainBody]
      cases r.posted? <;> simp
    | updateMapping =>
      have hdoc : ∀ tables, MappingBody.toDoc ⟨tables⟩ = tablesDoc tables := fun _ => rfl
      simp only [body?_eq_bind, toOption_mappingBody, tables?]
      cases r.posted? with
      | none => rfl
      | some d => cases hd : d.tablesPosted? <;> simp [hd, hdoc]
    | discovery =>
      simp only [body?_eq_bind, toOption_discoveryBody]
      cases r.posted? <;> simp
    | _ => rfl

/-! ### The tables of an update -/

theorem Request.isJson_posted {r : Request} {d : Doc} (h : r.posted? = some d) :
    d.IsJson (fun _ => True) Json.deepestLevel := by
  unfold Request.posted? Request.document at h
  split at h
  · cases h
  · split at h
    · rename_i found hread
      split at h
      · cases h
      · cases h
        exact Json.isJson_read hread fun _ _ => trivial
    · cases h
    · cases h

theorem keys_mapM {tables : List (Scalar × Doc)} : ∀ {rows : List (Scalar × Entry)},
    (tables.mapM fun table => table.2.entryPosted?.map (table.1, ·)) = some rows →
      rows.map Prod.fst = tables.map Prod.fst := by
  induction tables with
  | nil =>
    intro rows h
    cases h
    rfl
  | cons table tables ih =>
    intro rows h
    simp only [List.mapM_cons, Option.bind_eq_bind, Option.bind_eq_some_iff,
      Option.map_eq_some_iff] at h
    obtain ⟨row, ⟨entry, -, rfl⟩, rest, hrest, h⟩ := h
    cases h
    rw [List.map_cons, List.map_cons, ih hrest]

/-- Tables that are posted are named by texts, and none is there twice. -/
theorem Request.keys_tables? {r : Request} {tables : List (Scalar × Entry)}
    (h : r.tables? = some tables) : Fields.AllText tables ∧ Fields.Distinct tables := by
  obtain ⟨d, hd, h⟩ := Option.bind_eq_some_iff.mp h
  simp only [Doc.tablesPosted?, Option.bind_eq_bind, Option.bind_eq_some_iff] at h
  obtain ⟨value, hvalue, fields, hfields, hrows⟩ := h
  rw [allText_iff_keys, Fields.distinct_iff_keys, keys_mapM hrows, ← allText_iff_keys,
    ← Fields.distinct_iff_keys]
  cases r.isJson_posted hd with
  | object _ _ values =>
    obtain ⟨key, hmem⟩ := Fields.exists_mem_of_get? hvalue
    have hjson := values _ hmem
    cases value with
    | object found =>
      cases hfields
      refine ⟨hjson.allText, ?_⟩
      cases hjson with
      | object _ distinct _ => exact distinct
    | _ => cases hfields
  | _ => cases hvalue

/-- Only an update asks for an update, and of posted tables only. -/
theorem Request.call?_setMapping {r : Request} {d : Doc} (h : r.call? = some (.setMapping d)) :
    r.route? = some .updateMapping ∧
      ∃ tables, r.tables? = some tables ∧ Fields.AllText tables ∧ d = tablesDoc tables := by
  unfold Request.call? at h
  split at h
  case h_5 hroute =>
    obtain ⟨tables, htables, h⟩ := Option.map_eq_some_iff.mp h
    cases h
    exact ⟨hroute, tables, htables, (Request.keys_tables? htables).1, rfl⟩
  all_goals simp [Option.bind_eq_some_iff] at h

theorem allText_updates_tablesDoc {tables : List (Scalar × Entry)} (h : Fields.AllText tables) :
    Fields.AllText (tablesDoc tables).updates := by
  rw [allText_iff_keys] at h ⊢
  simpa [Doc.updates, Doc.fields?, tablesDoc, Function.comp_def] using h

namespace Request

end Request

end TwinQuery
