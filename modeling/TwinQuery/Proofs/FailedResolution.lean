/-
# Tables that cannot be resolved

The names in a mapping that is read from YAML may be scalars of any kind. A
table without an entry of its own is searched for in lower case, name by name,
up to its first spelling, and the search fails when it comes to a name that
has no lower case. Bytes have one and are passed over, although they are no
text. So it is the order and the kinds of the names before the first spelling
that decide, and a name after it does no harm (`resolution_fails_iff_blocked`).

The failure does not get out of a conversion. Nothing else on the way to SPL
can fail (`queryToSpl_eq_error_iff`), and what has failed is still a
conversion, with an empty outcome and the reason as its only note. That note
has none of the markers that take points off, whatever the name was
(`isIssueNote_failureNote`). The only finding on the empty outcome is that it
has no pipe, so a failed conversion of a sound query is trusted with 95 points
(`confidence_of_failed`), which is more than one that fell back on the default.

Key definitions: `failureNote`.
Key theorems: `queryToSpl_eq_error_iff`, `convertKql_of_failed`,
`outcome_convertKql_eq_nil_iff`, `resolution_fails_iff_blocked`,
`confidence_of_failed`.
-/
import TwinQuery.Proofs.Confidence
import TwinQuery.Proofs.Resolution
import TwinQuery.Session

namespace TwinQuery

open Text

/-! ### Conversions that fail -/

/-- A conversion to SPL fails where its table is resolved, and nowhere else. -/
theorem queryToSpl_eq_error_iff {m : TableMapping} {query : Text} {fault : Fault} :
    queryToSpl m query = .error fault ↔
      m.resolve (Pipeline.ofQuery query).head = .error fault := by
  simp only [queryToSpl, tableToSpl]
  cases m.resolve (Pipeline.ofQuery query).head with
  | error other => simp [bind, Except.bind]
  | ok place => simp [bind, Except.bind, pure, Except.pure]

/-- The note on a conversion that failed. -/
def failureNote (reason : Text) : Text := "Translation error: " ++ reason

theorem convertKql_of_failed (v : Vocabulary) {m : TableMapping} {query : Text} {fault : Fault}
    (h : queryToSpl m query = .error fault) :
    convertKql v m query =
      .build query .kql .spl (validateKql (some v.kql) query) (validateSpl (some v.spl) [])
        ⟨[], [failureNote fault.message]⟩ := by
  unfold convertKql
  rw [h]
  rfl

/-- **The outcome is empty exactly when the table is not resolved.** A search
begins with its index. -/
theorem outcome_convertKql_eq_nil_iff (v : Vocabulary) (m : TableMapping) (query : Text) :
    (convertKql v m query).outcome = [] ↔
      ∃ fault, m.resolve (Pipeline.ofQuery query).head = .error fault := by
  cases hspl : queryToSpl m query with
  | error fault =>
    have houtcome : (convertKql v m query).outcome = [] := by
      rw [convertKql_of_failed v hspl]
      rfl
    exact iff_of_true houtcome ⟨fault, queryToSpl_eq_error_iff.mp hspl⟩
  | ok spl =>
    obtain ⟨entry, usedDefault, hresolve, htext, -⟩ := exists_place_of_queryToSpl hspl
    have houtcome : (convertKql v m query).outcome = spl.text := by
      unfold convertKql
      rw [hspl]
      rfl
    refine iff_of_false ?_ fun ⟨fault, hfault⟩ => ?_
    · rw [houtcome, htext]
      nofun
    · rw [hresolve] at hfault
      cases hfault

/-! ### When a table is resolved -/

theorem Session.convertFrom_of_vocabulary {s : Session} {v : Vocabulary}
    (hv : s.vocabulary = some v) (w : Workspace) (source : Language) (query : Text) :
    s.convertFrom w source (.text query) =
      .ok (TwinQuery.convertFrom v s.mapping source query, s) := by
  unfold convertFrom loadVocabulary
  rw [hv]
  rfl

/-- **When a table cannot be resolved.** It has no entry of its own, and a name
that is neither a text nor bytes stands before its first spelling, or anywhere
when it has none. Any other table is resolved to its own entry, else to that of
its first spelling, else to the default. A session that has its vocabulary
converts every query to SPL; the outcome is empty, with a failure as the only
note, exactly when the table of the query cannot be resolved. -/
theorem resolution_fails_iff_blocked (s : Session) :
    (∀ table : Text,
      ((∃ fault, s.mapping.resolve table = .error fault) ↔
        s.mapping.BlockedBy (fun key => !key.hasLower) table) ∧
      (¬ s.mapping.BlockedBy (fun key => !key.hasLower) table →
        s.mapping.resolve table = .ok ((s.mapping.chosenRow table).2,
          decide ((s.mapping.chosenRow table).1 = .text defaultName)))) ∧
    ∀ (w : Workspace) (v : Vocabulary) (query : Text), s.vocabulary = some v →
      ∃ c, s.convertFrom w .kql (.text query) = .ok (c, s) ∧
        ((c.outcome = [] ∧ ∃ reason, c.notes = [failureNote reason]) ↔
          ∃ fault, s.mapping.resolve (Pipeline.ofQuery query).head = .error fault) := by
  constructor
  · intro table
    exact ⟨TableMapping.exists_error_iff_blockedBy, TableMapping.resolve_eq_of_not_blockedBy⟩
  · intro w v query hv
    have houtcome := outcome_convertKql_eq_nil_iff v s.mapping query
    refine ⟨_, Session.convertFrom_of_vocabulary hv w .kql query, ?_, ?_⟩
    · exact fun ⟨hempty, _⟩ => houtcome.mp hempty
    · rintro ⟨fault, hfault⟩
      have hfailed := convertKql_of_failed v (queryToSpl_eq_error_iff.mpr hfault)
      exact ⟨houtcome.mpr ⟨fault, hfault⟩, fault.message, congrArg Conversion.notes hfailed⟩

/-- A mapping with a number between two tables. -/
def numberedMapping : TableMapping :=
  ⟨[(.text "Early", ⟨"early", none, []⟩), (.int 1, ⟨"raw", none, []⟩),
    (.text "Late", ⟨"late", none, []⟩), (.text defaultName, ⟨"main", none, []⟩)], 1, by decide⟩

/-- A session with this mapping and the bundled vocabulary. -/
def numberedSession : Session := ⟨numberedMapping, .null, 0, some (.bundled ⟨0, some 0⟩)⟩

/-- The number stands in the way of a spelling after it, but not of the name
itself, nor of a spelling before it. -/
theorem resolution_fails_iff_blocked_number :
    (∃ fault, numberedSession.mapping.resolve "LATE" = .error fault) ∧
      numberedSession.mapping.resolve "Late" = .ok (⟨"late", none, []⟩, false) ∧
      numberedSession.mapping.resolve "EARLY" = .ok (⟨"early", none, []⟩, false) ∧
      numberedSession.vocabulary = some (.bundled ⟨0, some 0⟩) ∧
      ∃ c, numberedSession.convertFrom ⟨[], ⟨0, some 0⟩⟩ .kql (.text "LATE | take 5") =
        .ok (c, numberedSession) ∧ c.outcome = [] := by
  have hown : numberedSession.mapping.chosenRow "Late" = (.text "Late", ⟨"late", none, []⟩) := by
    decide +kernel
  have hspelling : numberedSession.mapping.chosenRow "EARLY" =
      (.text "Early", ⟨"early", none, []⟩) := by decide +kernel
  have hhead : (Pipeline.ofQuery "LATE | take 5").head = "LATE" := by decide
  obtain ⟨hresolve, hconvert⟩ := resolution_fails_iff_blocked numberedSession
  have hfails : ∃ fault, numberedSession.mapping.resolve "LATE" = .error fault :=
    (hresolve "LATE").1.mpr (by decide +kernel)
  obtain ⟨c, hc, hfailed⟩ := hconvert ⟨[], ⟨0, some 0⟩⟩ _ "LATE | take 5" rfl
  rw [hhead] at hfailed
  refine ⟨hfails, ?_, ?_, rfl, c, hc, (hfailed.mpr hfails).1⟩
  · rw [(hresolve "Late").2 (by decide +kernel), hown]
    rfl
  · rw [(hresolve "EARLY").2 (by decide +kernel), hspelling]
    rfl

/-! ### Names in a mapping file -/

/-- The entries that a mapping file describes. -/
def updatesInFile (w : Workspace) (p : Path) : Option (List (Scalar × Entry)) :=
  (readMappingFile w p).toOption.bind fun fields? =>
    fields?.bind fun fields => (entriesOfDoc (.object fields)).toOption

theorem withFile_of_updates {w : Workspace} {p : Path} {row : Scalar × Entry}
    {updates : List (Scalar × Entry)} (h : updatesInFile w p = some (row :: updates)) :
    TableMapping.withFile w p = .ok (.overlay .defaults (row :: updates)) := by
  unfold updatesInFile at h
  unfold TableMapping.withFile
  cases hfile : readMappingFile w p with
  | error fault =>
    rw [hfile] at h
    cases h
  | ok fields? =>
    rw [hfile] at h
    cases fields? with
    | none => cases h
    | some fields =>
      cases hentries : entriesOfDoc (.object fields) with
      | error fault =>
        simp only [Except.toOption, Option.bind_some, hentries] at h
        cases h
      | ok entries =>
        simp only [Except.toOption, Option.bind_some, hentries, Option.some.injEq] at h
        subst h
        cases fields with
        | nil => cases hentries
        | cons field fields =>
          simp only [bind, Except.bind, TableMapping.withFields, TableMapping.merge, hentries]
          rfl

/-- The workspace with a mapping file of the given text. -/
def workspaceOfTables (t : Text) : Workspace := ⟨[(["tables.yaml"], .file (.text t))], ⟨0, some 0⟩⟩

/-- The defaults with bytes among the names. -/
def binaryMapping : TableMapping := .overlay .defaults [(.bytes [104, 105], ⟨"raw", none, []⟩)]

/-- That a name is no text is not enough: a mapping file gives bytes for a
name, and the search passes them over. -/
theorem not_fails_iff_blockedBy_bytes :
    TableMapping.withFile (workspaceOfTables "!!binary aGk=: \x7bindex: raw\x7d\n")
        (.ofText "tables.yaml") = .ok binaryMapping ∧
      ¬ ((∃ fault, binaryMapping.resolve "Unlisted" = .error fault) ↔
        binaryMapping.BlockedBy (fun key => key.text?.isNone) "Unlisted") := by
  refine ⟨withFile_of_updates (by decide +kernel), fun hiff => ?_⟩
  have hfails := hiff.mpr (by decide +kernel)
  have hblocked := TableMapping.exists_error_iff_blockedBy.mp hfails
  exact absurd hblocked (by decide +kernel)

/-! ### The confidence in a failure -/

/-- **The note on a failure has no marker,** whatever name the search came
to. -/
theorem isIssueNote_failureNote (kind : Kind) :
    isIssueNote (failureNote (Fault.tableNotText kind).message) = false := by
  cases kind <;> decide

theorem penalty_validateSpl_nil (commands : VerbTable) :
    (validateSpl (some commands) []).penalty = 5 := rfl

/-- **A conversion that failed is not charged for it.** Its only note names the
kind of a name in the mapping that has no lower case, and takes no points off.
Five points are lost for the pipe that the empty outcome does not have, and the
rest for what is found in the query. -/
theorem confidence_of_failed (v : Vocabulary) (m : TableMapping) (query : Text)
    (h : (convertKql v m query).outcome = []) :
    (∃ row ∈ m.entries, row.1.hasLower = false ∧
      (convertKql v m query).notes = [failureNote (Fault.tableNotText row.1.kind).message]) ∧
    (∀ note ∈ (convertKql v m query).notes, isIssueNote note = false) ∧
    (convertKql v m query).confidence = 95 - (validateKql (some v.kql) query).penalty := by
  have hblocked : m.BlockedBy (fun key => !key.hasLower) (Pipeline.ofQuery query).head :=
    TableMapping.exists_error_iff_blockedBy.mp ((outcome_convertKql_eq_nil_iff v m query).mp h)
  obtain ⟨row, hrow, hlower, hfault⟩ := TableMapping.resolve_eq_error_of_blockedBy hblocked
  have hfailed := convertKql_of_failed v (queryToSpl_eq_error_iff.mpr hfault)
  have hnote := isIssueNote_failureNote row.1.kind
  rw [hfailed]
  refine ⟨⟨row, hrow, hlower, rfl⟩, ?_, ?_⟩
  · intro note hmem
    rw [List.mem_singleton.mp hmem]
    exact hnote
  · have hnotes : notesPenalty [failureNote (Fault.tableNotText row.1.kind).message] = 0 := by
      simp [notesPenalty, hnote]
    simp only [Conversion.build, confidence, hnotes, penalty_validateSpl_nil]
    omega

/-- The defaults with a number among the names. -/
def mappingWithNumber : TableMapping := .overlay .defaults [(.int 1, ⟨"raw", none, []⟩)]

/-- A mapping file gives a number for a name. A table that is not resolved
because of it is trusted with 95 points, where the defaults give 90. -/
theorem confidence_of_failed_number :
    TableMapping.withFile (workspaceOfTables "1: \x7bindex: raw\x7d\n") (.ofText "tables.yaml") =
      .ok mappingWithNumber ∧
    (convertKql (.bundled ⟨0, some 0⟩) mappingWithNumber "Unlisted | take 5").outcome = [] ∧
    (∀ note ∈ (convertKql (.bundled ⟨0, some 0⟩) mappingWithNumber "Unlisted | take 5").notes,
      isIssueNote note = false) ∧
    (convertKql (.bundled ⟨0, some 0⟩) mappingWithNumber "Unlisted | take 5").confidence = 95 ∧
    (convertKql (.bundled ⟨0, some 0⟩) .defaults "Unlisted | take 5").confidence = 90 := by
  have hsound : (validateKql (some (Vocabulary.bundled ⟨0, some 0⟩).kql)
      "Unlisted | take 5").penalty = 0 := by decide +kernel
  have hempty : (convertKql (.bundled ⟨0, some 0⟩) mappingWithNumber "Unlisted | take 5").outcome =
      [] := by decide +kernel
  obtain ⟨-, hnotes, hconfidence⟩ := confidence_of_failed _ _ _ hempty
  rw [hsound] at hconfidence
  exact ⟨withFile_of_updates (by decide +kernel), hempty, hnotes, hconfidence, by decide +kernel⟩

end TwinQuery
