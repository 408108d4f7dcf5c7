/-
# Mapping files

A mapping file is taken whole or not at all. Its fields are read one after the
other, and the first one that describes no entry ends the reading
(`Entry.ofDoc?_eq`); what was read before it is lost with it, wherever it
stands, because the mapping is a value that is only replaced at the end
(`TableMapping.withFields_whole`, `TableMapping.withFields_default`).

A field describes an entry when it is an object with a true index. That is not
quite enough: a number in YAML may be written in another base, and an integer
of more decimal digits than can be written has no text to stand in the entry
(`view_longNumberTables`). A file has no key twice, in either notation
(`distinct_of_readMappingFile`), so that each of its fields has its own entry.

Key definitions: `Doc.hasIndex`, `Doc.entry`.
Key theorems: `Entry.ofDoc?_eq`, `TableMapping.withFields_whole`,
`Yaml.hasDistinctKeys_build`, `distinct_of_readMappingFile`,
`Session.mapping_whole_or_default`.
-/
import TwinQuery.Proofs.FailedResolution
import TwinQuery.Proofs.Handling
import TwinQuery.Proofs.MappingExport

namespace TwinQuery

/-! ### What a field describes -/

/-- Whether a document is an object with a true index. -/
def Doc.hasIndex (d : Doc) : Bool := (d.field? "index").any Doc.isTruthy

/-- The text of a value, none for null. -/
def Doc.shown? : Doc → Option Text
  | .atom .null => none
  | value => some value.display

theorem Doc.shown?_of_ne {d : Doc} (h : d ≠ .null) : d.shown? = some d.display := by
  unfold Doc.shown?
  split
  · exact absurd rfl h
  · rfl

/-- The text of a field, none when it is absent or null. -/
def Doc.written? (d : Doc) (name : Text) : Option Text := (d.field? name).bind Doc.shown?

/-- The entry of an object with an index. An empty source type is none. -/
def Doc.entry (d : Doc) : Entry where
  index := (d.written? "index").getD []
  sourcetype := (d.written? "sourcetype").filter (!·.isEmpty)
  note := (d.written? "note").getD []

/-- **What describes an entry**: an object with a true index, whose texts can be
written. -/
theorem Entry.ofDoc?_eq (d : Doc) :
    Entry.ofDoc? d = if d.hasIndex && !Entry.isTooLong d then some d.entry else none := by
  unfold Entry.ofDoc? Entry.ofDoc Doc.hasIndex
  cases hindex : d.field? "index" with
  | none => rfl
  | some index =>
    cases htrue : index.isTruthy with
    | false => simp [htrue, Except.toOption]
    | true =>
      cases hlong : Entry.isTooLong d with
      | true => simp [htrue, Except.toOption]
      | false =>
        have hnull : index ≠ .null := by
          rintro rfl
          cases htrue
        simp only [htrue, if_true, Except.toOption, Option.any_some, Bool.not_false, Bool.and_self,
          Bool.false_eq_true, if_false, Option.some.injEq, Doc.entry, Doc.written?, hindex,
          Option.bind_some, Doc.shown?_of_ne hnull, Option.getD_some, Entry.mk.injEq, true_and]
        refine ⟨?_, ?_⟩
        · split
          case h_1 hfield => simp [hfield]
          case h_2 hfield => simp [hfield, Doc.shown?]
          case h_3 hfield =>
            rw [hfield]
            rfl
          case h_4 value hnull hempty hfield =>
            -- only the empty text is displayed as nothing
            have hne : value.display ≠ [] := Doc.display_ne_nil hempty
            simp [hfield, Doc.shown?_of_ne hnull, Option.filter_some, hne]
        · split
          case h_1 hfield => simp [hfield]
          case h_2 hfield => simp [hfield, Doc.shown?]
          case h_3 value hnull hfield => simp [hfield, Doc.shown?_of_ne hnull]

/-! ### Distinct keys -/

/-- No two fields of a document have the same key. -/
def Doc.HasDistinctKeys (d : Doc) : Prop := ∀ fields, d = .object fields → Fields.Distinct fields

namespace Yaml

theorem hasDistinctKeys_of_empty? {tag : Tag} {d : Doc} (h : tag.empty? = some d) :
    d.HasDistinctKeys := by
  rintro fields rfl
  cases tag <;> cases h
  exact List.Pairwise.nil

theorem hasDistinctKeys_ofScalar (s : Except Fault Scalar) :
    (Built.ofScalar s).doc.HasDistinctKeys := by
  intro fields h
  cases s <;> cases h

/-- Of a repeated key only one field is left. -/
theorem hasDistinctKeys_build (n : Node) : n.build.doc.HasDistinctKeys := by
  intro fields h
  unfold Node.build at h
  split at h
  · split at h
    · exact hasDistinctKeys_of_empty? ‹_› fields h
    · exact hasDistinctKeys_ofScalar _ fields h
  · cases h
  · cases h
  · split at h
    · exact hasDistinctKeys_of_empty? ‹_› fields h
    · exact hasDistinctKeys_ofScalar _ fields h
  · split at h
    · cases h
      exact Fields.distinct_ofPairs _
    · cases h
      exact List.Pairwise.nil
  · split at h <;> cases h
  · split at h
    · exact hasDistinctKeys_of_empty? ‹_› fields h
    · unfold Node.buildScalar at h
      split at h <;> exact hasDistinctKeys_ofScalar _ fields h
  · cases h

theorem hasDistinctKeys_read {t : Text} {d : Doc} (h : read t = .ok d) : d.HasDistinctKeys := by
  unfold read at h
  split at h
  · obtain ⟨n, -, h⟩ := exists_of_bind_eq_ok h
    unfold Built.result at h
    split at h
    · cases h
      exact hasDistinctKeys_build n
    · cases h
  · cases h

end Yaml

theorem hasDistinctKeys_mappingDocument {w : Workspace} {p : Path} {d : Doc}
    (h : mappingDocument w p = .ok d) : d.HasDistinctKeys := by
  unfold mappingDocument at h
  split at h
  · obtain ⟨t, -, h⟩ := exists_of_bind_eq_ok h
    obtain ⟨found, hread, h⟩ := exists_of_bind_eq_ok h
    cases h
    split
    · exact Yaml.hasDistinctKeys_read hread
    · rintro fields ⟨⟩
      exact List.Pairwise.nil
  · rintro fields rfl
    cases Workspace.isJson_readJson h with
    | object _ distinct _ => exact distinct

/-- **A mapping file has no key twice.** -/
theorem distinct_of_readMappingFile {w : Workspace} {p : Path} {fields : List (Scalar × Doc)}
    (h : readMappingFile w p = .ok (some fields)) : Fields.Distinct fields := by
  obtain ⟨there, -, h⟩ := exists_of_bind_eq_ok h
  split at h
  · split at h
    · rename_i d hd
      have hdistinct := hasDistinctKeys_mappingDocument hd
      cases d with
      | object raw =>
        cases h
        rw [Fields.distinct_iff_keys, Fields.keys_unrolled, ← Fields.distinct_iff_keys]
        exact hdistinct raw rfl
      | _ => cases h
    · split at h <;> cases h
  · cases h

/-! ### The mapping of a file -/

section

variable {fields : List (Scalar × Doc)}

/-- The rows of a mapping that the fields of a file become. -/
def Fields.entries (fields : List (Scalar × Doc)) : List (Scalar × Entry) :=
  fields.map (Prod.map id Doc.entry)

theorem entriesOfDoc_of_usable
    (h : ∀ field ∈ fields, field.2.hasIndex ∧ Entry.isTooLong field.2 = false) :
    entriesOfDoc (.object fields) = .ok (Fields.entries fields) := by
  rw [entriesOfDoc_object_eq_ok_iff, Fields.entries, List.map_map]
  refine List.map_congr_left fun field hmem => ?_
  obtain ⟨hindex, hlong⟩ := h field hmem
  have hentry : Entry.ofDoc? field.2 = some field.2.entry := by
    simp [Entry.ofDoc?_eq, hindex, hlong]
  exact Prod.ext rfl hentry

/-- One field without an entry is enough, wherever it stands. -/
theorem exists_error_entriesOfDoc
    (h : ∃ field ∈ fields, field.2.hasIndex = false ∨ Entry.isTooLong field.2) :
    ∃ fault, entriesOfDoc (.object fields) = .error fault := by
  obtain ⟨field, hmem, hbad⟩ := h
  have hnone : Entry.ofDoc? field.2 = none := by
    rw [Entry.ofDoc?_eq]
    rcases hbad with hindex | hlong
    · simp [hindex]
    · simp [hlong]
  cases hentries : entriesOfDoc (.object fields) with
  | error fault => exact ⟨fault, rfl⟩
  | ok rows =>
    have hrows := (entriesOfDoc_object_eq_ok_iff _ _).mp hentries
    have hfield : (field.1, Entry.ofDoc? field.2) ∈ rows.map (Prod.map id some) :=
      hrows ▸ List.mem_map_of_mem hmem
    obtain ⟨row, -, hrow⟩ := List.mem_map.mp hfield
    have hsome := congrArg Prod.snd hrow
    rw [hnone] at hsome
    cases hsome

theorem TableMapping.withFields_of_usable (hne : fields ≠ [])
    (h : ∀ field ∈ fields, field.2.hasIndex ∧ Entry.isTooLong field.2 = false) :
    TableMapping.withFields (some fields) = .overlay .defaults (Fields.entries fields) := by
  have hmerge : TableMapping.defaults.merge (.object fields) =
      .ok (.overlay .defaults (Fields.entries fields)) :=
    (merge_eq_ok_iff ..).mpr ⟨_, entriesOfDoc_of_usable h, rfl⟩
  unfold TableMapping.withFields
  split
  · rename_i hfound
    cases hfound
  · rename_i hfound
    cases hfound
    exact absurd rfl hne
  · rename_i hfound
    cases hfound
    rw [hmerge]

theorem TableMapping.withFields_of_unusable
    (h : ∃ field ∈ fields, field.2.hasIndex = false ∨ Entry.isTooLong field.2) :
    TableMapping.withFields (some fields) = .defaults := by
  obtain ⟨fault, hentries⟩ := exists_error_entriesOfDoc h
  unfold TableMapping.withFields
  split
  · rfl
  · rfl
  · rename_i hfound
    cases hfound
    rw [TableMapping.merge, hentries]
    rfl

/-- **Fields that all describe an entry are taken whole**, whatever notation
they were read from, as long as no key is there twice. -/
theorem TableMapping.withFields_whole (hdistinct : Fields.Distinct fields) (hne : fields ≠ [])
    (h : ∀ field ∈ fields, field.2.hasIndex ∧ Entry.isTooLong field.2 = false) :
    (TableMapping.withFields (some fields)).version = 2 ∧
      (TableMapping.withFields (some fields)).entries =
        Fields.putAll (Fields.entries fields) TableMapping.defaults.entries ∧
      (∀ field ∈ fields,
        (TableMapping.withFields (some fields)).find? field.1 = some field.2.entry) ∧
      ∀ key, (∀ field ∈ fields, ¬ field.1.sameKey key) →
        (TableMapping.withFields (some fields)).find? key = TableMapping.defaults.find? key := by
  have hentries : Fields.Distinct (Fields.entries fields) := by
    have hkeys : (Fields.entries fields).map Prod.fst = fields.map Prod.fst := by
      simp [Fields.entries]
    rw [Fields.distinct_iff_keys, hkeys, ← Fields.distinct_iff_keys]
    exact hdistinct
  rw [TableMapping.withFields_of_usable hne h]
  refine ⟨rfl, rfl, ?_, ?_⟩
  · intro field hmem
    exact Fields.get?_putAll_of_mem hentries (List.mem_map_of_mem hmem) _
  · intro key habsent
    refine Fields.get?_putAll_of_absent (fun row hrow => ?_) _
    obtain ⟨field, hmem, rfl⟩ := List.mem_map.mp hrow
    exact habsent field hmem

/-- **Otherwise nothing of them is taken.** -/
theorem TableMapping.withFields_default {found : Option (List (Scalar × Doc))}
    (h : found.getD [] = [] ∨
      ∃ field ∈ found.getD [], field.2.hasIndex = false ∨ Entry.isTooLong field.2) :
    TableMapping.withFields found = .defaults := by
  cases found with
  | none => rfl
  | some fields =>
    rcases h with rfl | h
    · rfl
    · exact TableMapping.withFields_of_unusable h

end

/-- A session starts with every mapping file that can be passed over or read. -/
theorem Session.exists_ofSettings {w : Workspace} {settings : Settings} {interval : Int}
    {found : Option (List (Scalar × Doc))}
    (hfile : readMappingFile w settings.mappingPath = .ok found)
    (hdays : intervalOfDays settings.refreshDays = .ok interval) :
    ∃ s, Session.ofSettings w settings = .ok s ∧ s.mapping = .withFields found := by
  refine ⟨⟨.withFields found, settings.referenceDir, interval, none⟩, ?_, rfl⟩
  rw [Session.ofSettings, TableMapping.withFile, hfile]
  show Session.withMapping _ _ _ = _
  rw [Session.withMapping, hdays]
  rfl

/-- **A mapping file is taken whole or not at all.** When each of its fields is
an object with a true index, and none has an integer that is too long to be
written, the mapping is the default one with an entry for each field put in,
in the next version. Otherwise, whatever else is in the file and wherever the
field stands that is to blame, it is the default mapping. -/
theorem Session.mapping_whole_or_default (w : Workspace) (settings : Settings)
    (found : Option (List (Scalar × Doc))) (interval : Int)
    (hfile : readMappingFile w settings.mappingPath = .ok found)
    (hdays : intervalOfDays settings.refreshDays = .ok interval) :
    ∃ s, Session.ofSettings w settings = .ok s ∧
      (found.getD [] ≠ [] →
        (∀ field ∈ found.getD [], field.2.hasIndex ∧ Entry.isTooLong field.2 = false) →
          s.mapping.version = 2 ∧
          s.mapping.entries =
            Fields.putAll (Fields.entries (found.getD [])) TableMapping.defaults.entries ∧
          (∀ field ∈ found.getD [], s.mapping.find? field.1 = some field.2.entry) ∧
          ∀ key, (∀ field ∈ found.getD [], ¬ field.1.sameKey key) →
            s.mapping.find? key = TableMapping.defaults.find? key) ∧
      ((found.getD [] = [] ∨
          ∃ field ∈ found.getD [], field.2.hasIndex = false ∨ Entry.isTooLong field.2) →
        s.mapping = .defaults ∧ s.mapping.version = 1) := by
  obtain ⟨s, hs, hmapping⟩ := Session.exists_ofSettings hfile hdays
  refine ⟨s, hs, ?_, ?_⟩
  · intro hne husable
    cases found with
    | none => exact absurd rfl hne
    | some fields =>
      rw [hmapping]
      exact TableMapping.withFields_whole (distinct_of_readMappingFile hfile) hne husable
  · intro hbad
    rw [hmapping, TableMapping.withFields_default hbad]
    exact ⟨rfl, rfl⟩

/-- A file is known by what its fields are mapped to. -/
theorem exists_fields_of_map {β : Type} {w : Workspace} {p : Path} {f : Scalar × Doc → β}
    {rows : List β}
    (h : ((readMappingFile w p).toOption.bind fun found => found.map (List.map f)) = some rows) :
    ∃ fields, readMappingFile w p = .ok (some fields) ∧ fields.map f = rows := by
  cases hfile : readMappingFile w p with
  | error fault =>
    rw [hfile] at h
    cases h
  | ok found =>
    rw [hfile] at h
    cases found with
    | none => cases h
    | some fields => exact ⟨fields, rfl, Option.some.inj h⟩

/-- The settings with a mapping file in YAML. -/
def tableSettings : Settings := { Settings.defaults with mappingPath := .ofText "tables.yaml" }

theorem intervalOfDays_tableSettings :
    intervalOfDays tableSettings.refreshDays = .ok (7 * dayMicros) := rfl

/-- A file of two tables. -/
def twoTables : Text := "Logins: \x7bindex: auth, sourcetype: 0\x7d\n1: \x7bindex: [a]\x7d\n"

/-- What is known of a field: its key and entry, whether it has a true index,
and whether it is too long. -/
def Fields.view (field : Scalar × Doc) : Scalar × Entry × Bool × Bool :=
  (field.1, field.2.entry, field.2.hasIndex, Entry.isTooLong field.2)

/-- The view of the file of two tables. -/
def twoTablesView : List (Scalar × Entry × Bool × Bool) :=
  [(.text "Logins", ⟨"auth", some "0", []⟩, true, false),
    (.int 1, ⟨"['a']", none, []⟩, true, false)]

/-- Two entries are taken, and neither is when a third one has an index that
counts as false. -/
theorem Session.mapping_whole_or_default_third_index :
    (∃ s, Session.ofSettings (workspaceOfTables twoTables) tableSettings = .ok s ∧
      s.mapping.version = 2 ∧ s.mapping.find? (.text "Logins") = some ⟨"auth", some "0", []⟩ ∧
      s.mapping.find? (.int 1) = some ⟨"['a']", none, []⟩ ∧
      s.mapping.find? (.text "default") = TableMapping.defaults.find? (.text "default")) ∧
    ∃ s, Session.ofSettings (workspaceOfTables (twoTables ++ "Mail: \x7bindex: 0\x7d\n"))
        tableSettings = .ok s ∧ s.mapping = .defaults ∧ s.mapping.version = 1 := by
  obtain ⟨fields, hfile, hview⟩ := @exists_fields_of_map _ (workspaceOfTables twoTables)
    tableSettings.mappingPath Fields.view twoTablesView (by decide +kernel)
  obtain ⟨others, hotherFile, hotherView⟩ := @exists_fields_of_map _
    (workspaceOfTables (twoTables ++ "Mail: \x7bindex: 0\x7d\n")) tableSettings.mappingPath
    Fields.view (twoTablesView ++ [(.text "Mail", ⟨"0", none, []⟩, false, false)])
    (by decide +kernel)
  obtain ⟨s, hs, hwhole, -⟩ :=
    Session.mapping_whole_or_default _ tableSettings _ _ hfile intervalOfDays_tableSettings
  obtain ⟨t, ht, -, hdefault⟩ :=
    Session.mapping_whole_or_default _ tableSettings _ _ hotherFile intervalOfDays_tableSettings
  have hmem : ∀ {field}, field ∈ fields → Fields.view field ∈ twoTablesView :=
    fun hfield => hview ▸ List.mem_map_of_mem hfield
  have hne : fields ≠ [] := by
    rintro rfl
    exact absurd hview (List.cons_ne_nil _ _).symm
  have husable : ∀ field ∈ fields, field.2.hasIndex ∧ Entry.isTooLong field.2 = false :=
    fun field hfield =>
      (by decide : ∀ row ∈ twoTablesView, row.2.2.1 = true ∧ row.2.2.2 = false) _ (hmem hfield)
  obtain ⟨hversion, -, hfound, hkept⟩ := hwhole hne husable
  have hrow : ∀ row ∈ twoTablesView, s.mapping.find? row.1 = some row.2.1 := by
    intro row hrow
    obtain ⟨field, hfield, rfl⟩ := List.mem_map.mp (hview ▸ hrow)
    exact hfound field hfield
  obtain ⟨hlogins, hrest⟩ := List.forall_mem_cons.mp hrow
  obtain ⟨hone, -⟩ := List.forall_mem_cons.mp hrest
  refine ⟨⟨s, hs, hversion, hlogins, hone, ?_⟩, t, ht, hdefault (.inr ?_)⟩
  · refine hkept _ fun field hfield => ?_
    exact (by decide : ∀ row ∈ twoTablesView, ¬ row.1.sameKey (.text "default")) _ (hmem hfield)
  · have hlast : (.text "Mail", ⟨"0", none, []⟩, false, false) ∈ others.map Fields.view := by
      rw [hotherView]
      decide
    obtain ⟨field, hfield, hfieldView⟩ := List.mem_map.mp hlast
    exact ⟨field, hfield, .inl (congrArg (·.2.2.1) hfieldView)⟩

/-- The file of one table, whose index is the number of 3572 hexadecimal digits
`f`; it has 4302 decimal digits. -/
def longNumberTables : Text :=
  "Logins: \x7bindex: 0x" ++ List.replicate 3572 (CodePoint.char 'f') ++ "\x7d\n"

set_option maxRecDepth 1000000 in
theorem view_longNumberTables :
    ((readMappingFile (workspaceOfTables longNumberTables) tableSettings.mappingPath).toOption.bind
      fun found => found.map (List.map fun field => (field.2.hasIndex, Entry.isTooLong field.2))) =
        some [(true, true)] := by
  decide +kernel

/-- That every field has a true index is not enough. -/
theorem not_whole_of_hasIndex :
    ∃ fields s, readMappingFile (workspaceOfTables longNumberTables) tableSettings.mappingPath =
        .ok (some fields) ∧ fields ≠ [] ∧ (∀ field ∈ fields, field.2.hasIndex) ∧
      Session.ofSettings (workspaceOfTables longNumberTables) tableSettings = .ok s ∧
      s.mapping = .defaults ∧ s.mapping.version = 1 := by
  obtain ⟨fields, hfile, hview⟩ := exists_fields_of_map view_longNumberTables
  obtain ⟨s, hs, hmapping⟩ := Session.exists_ofSettings hfile intervalOfDays_tableSettings
  obtain ⟨field, rfl, hfield⟩ := List.map_eq_singleton_iff.mp hview
  obtain ⟨hindex, hlong⟩ := Prod.mk.inj hfield
  have hdefault : s.mapping = .defaults :=
    hmapping.trans (TableMapping.withFields_of_unusable ⟨field, List.mem_cons_self, .inr hlong⟩)
  refine ⟨[field], s, hfile, List.cons_ne_nil _ _, List.forall_mem_singleton.mpr hindex, hs,
    hdefault, ?_⟩
  rw [hdefault]
  rfl

end TwinQuery
