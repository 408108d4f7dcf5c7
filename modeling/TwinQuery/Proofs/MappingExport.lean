/-
# Exported mappings

A mapping is exported as the document that describes it, and an exported
mapping can be merged like any other update. An entry that was read from a
document is normal: its index is not empty, and its source type is missing or
not empty (`Entry.isNormal_of_ofDoc?`), because only the empty text is displayed
as nothing (`Doc.display_ne_nil`). An entry with an index is read back from the
document that describes it (`Entry.ofDoc?_toDoc`), a normal one as it is.

Every mapping that merges make of the defaults has the names of the defaults
first, in their places (`TableMapping.entries_foldlM_merge`), and no name
twice. So laying its entries over the defaults gives them back in their order,
and so does laying them over themselves.

Key definitions: `Entry.IsNormal`, `Entry.kept`.
Key theorems: `Entry.isNormal_of_ofDoc?`, `Entry.ofDoc?_toDoc`,
`merge_toDoc_of_merges`.
-/
import TwinQuery.Proofs.Merging
import TwinQuery.TableMapping.Defaults

namespace TwinQuery

/-! ### What is displayed as nothing -/

theorem Text.ofInt_ne_nil : ∀ i : Int, Text.ofInt i ≠ []
  | .ofNat n => Text.ofNat_ne_nil n
  | .negSucc _ => List.cons_ne_nil _ _

theorem Binary64.displayMagnitude_ne_nil (rank : Nat) : displayMagnitude rank ≠ [] := by
  unfold displayMagnitude
  by_cases hrank : rank = 0
  · rw [if_pos hrank]
    decide
  · have hdigits := Text.ofNat_ne_nil (shortest rank).digits
    have hdot : Text.ofString "." ≠ [] := by decide
    rw [if_neg hrank]
    dsimp only
    split
    · unfold positional
      split
      · simp [hdigits]
      · split <;> simp [hdigits, hdot]
    · simp [exponential, hdigits]

theorem Binary64.display_ne_nil (x : Binary64) : x.display ≠ [] := by
  cases x with
  | nan => decide
  | number negative rank =>
    have hmagnitude := displayMagnitude_ne_nil rank.val
    have hinfinity : Text.ofString "inf" ≠ [] := by decide
    have hbody : (if rank.val < infinityRank then displayMagnitude rank.val
        else Text.ofString "inf") ≠ [] := by
      split
      · exact hmagnitude
      · exact hinfinity
    simp [display, displayWith, hbody]

theorem Stamp.displayWith_ne_nil (mark : CodePoint) (s : Stamp) : s.displayWith mark ≠ [] := by
  simp [Stamp.displayWith]

theorem Date.display_ne_nil (d : Date) : d.display ≠ [] := by
  have hhyphen : Text.ofString "-" ≠ [] := by decide
  simp [Date.display, hhyphen]

theorem Doc.literal_ne_nil {d : Doc} (h : ∀ s, d ≠ .atom s) : d.literal ≠ [] := by
  have hlist : Text.ofString "[" ≠ [] := by decide
  have hobject : Text.ofString "\x7b" ≠ [] := by decide
  have hpair : Text.ofString "(" ≠ [] := by decide
  cases d with
  | atom s => exact absurd rfl (h s)
  | list items => simp [literal, hlist]
  | object fields => simp [literal, hobject]
  | pair first second => simp [literal, hpair]
  | members items =>
    cases items with
    | nil => decide
    | cons item items => simp [literal, hobject]
  | enclosing kind => cases kind <;> decide

/-- **Only the empty text is displayed as nothing.** -/
theorem Doc.display_ne_nil {d : Doc} (h : d ≠ .text []) : d.display ≠ [] := by
  cases d with
  | atom s =>
    cases s with
    | null => decide
    | bool b => cases b <;> decide
    | int i => exact Text.ofInt_ne_nil i
    | float x => exact Binary64.display_ne_nil x
    | text t => exact fun ht => h (congrArg Doc.text ht)
    | date d => exact Date.display_ne_nil d
    | stamp s => exact Stamp.displayWith_ne_nil ' ' s
    | bytes values => exact List.cons_ne_nil _ _
  | _ => exact Doc.literal_ne_nil fun s hs => by cases hs

/-! ### Normal entries -/

/-- The index is not empty, and the source type is missing or not empty. -/
def Entry.IsNormal (e : Entry) : Prop := e.index ≠ [] ∧ e.sourcetype ≠ some []

instance (e : Entry) : Decidable e.IsNormal := inferInstanceAs (Decidable (_ ∧ _))

theorem Entry.isNormal_of_ofDoc? {d : Doc} {e : Entry} (h : Entry.ofDoc? d = some e) :
    e.IsNormal := by
  rw [← Entry.ofDoc_eq_ok_iff .null, Entry.ofDoc] at h
  split at h
  · cases h
  · rename_i index hindex
    split at h
    · rename_i htruthy
      dsimp only at h
      split at h
      · cases h
      · cases h
        refine ⟨Doc.display_ne_nil ?_, ?_⟩
        · rintro rfl
          cases htruthy
        · dsimp only
          split
          · simp
          · simp
          · simp
          · rename_i value hnull hempty hvalue
            have hne : value ≠ .text [] := hempty
            simp [Doc.display_ne_nil hne]
    · cases h

/-- The entry as a mapping keeps it: an empty source type is none. -/
def Entry.kept (e : Entry) : Entry := { e with sourcetype := e.sourcetype.filter (!·.isEmpty) }

theorem Entry.kept_of_isNormal {e : Entry} (h : e.IsNormal) : e.kept = e := by
  obtain ⟨index, sourcetype, note⟩ := e
  cases sourcetype with
  | none => rfl
  | some t =>
    cases t with
    | nil => exact absurd rfl h.2
    | cons c t => rfl

/-- **An entry is read back from its document**, if it has an index. -/
theorem Entry.ofDoc?_toDoc (e : Entry) :
    Entry.ofDoc? e.toDoc = if e.index = [] then none else some e.kept := by
  have hindex : e.toDoc.field? "index" = some (.text e.index) := rfl
  have hsourcetype : e.toDoc.field? "sourcetype" = some e.sourcetypeDoc := rfl
  have hnote : e.toDoc.field? "note" = some (.text e.note) := rfl
  -- all fields that are written are texts or null
  have hlong : Entry.isTooLong e.toDoc = false := by
    have hplain : e.sourcetypeDoc.hasLongInteger = false := by
      unfold Entry.sourcetypeDoc
      cases e.sourcetype <;> rfl
    simp [Entry.isTooLong, Entry.writtenFields, hindex, hsourcetype, hnote, hplain, Doc.text,
      Doc.hasLongInteger, Scalar.isLongInteger]
  have htruthy : (Doc.text e.index).isTruthy ↔ e.index ≠ [] := by
    simp [Doc.text, Doc.isTruthy, Scalar.isTruthy]
  by_cases hempty : e.index = []
  · rw [if_pos hempty, Option.eq_none_iff_forall_ne_some]
    intro found hfound
    rw [← Entry.ofDoc_eq_ok_iff .null, Entry.ofDoc, hindex] at hfound
    dsimp only at hfound
    rw [if_neg fun h => htruthy.mp h hempty] at hfound
    cases hfound
  · rw [if_neg hempty, ← Entry.ofDoc_eq_ok_iff .null, Entry.ofDoc, hindex, hsourcetype, hnote]
    dsimp only
    rw [if_pos (htruthy.mpr hempty), if_neg (by simp [hlong])]
    obtain ⟨index, sourcetype, note⟩ := e
    cases sourcetype with
    | none => rfl
    | some t => cases t <;> rfl

theorem entriesOfDoc_toDoc {m : TableMapping} (h : ∀ row ∈ m.entries, row.2.IsNormal) :
    entriesOfDoc m.toDoc = .ok m.entries := by
  rw [TableMapping.toDoc, entriesOfDoc_object_eq_ok_iff, List.map_map]
  refine List.map_congr_left fun row hrow => ?_
  have hread := Entry.ofDoc?_toDoc row.2
  rw [if_neg (h row hrow).1, Entry.kept_of_isNormal (h row hrow)] at hread
  simp [Prod.map, hread]

/-! ### Mappings that merges make -/

theorem isNormal_entriesOfDoc {d : Doc} {rows : List (Scalar × Entry)}
    (h : entriesOfDoc d = .ok rows) : ∀ row ∈ rows, row.2.IsNormal := by
  intro row hrow
  have hrows := (entriesOfDoc_object_eq_ok_iff _ _).mp (entriesOfDoc_updates h)
  have hmem : Prod.map id some row ∈ d.updates.map (Prod.map id Entry.ofDoc?) := by
    rw [hrows]
    exact List.mem_map_of_mem hrow
  obtain ⟨field, -, heq⟩ := List.mem_map.mp hmem
  exact Entry.isNormal_of_ofDoc? (congrArg Prod.snd heq)

/-- **Merges lay normal entries over a mapping.** -/
theorem TableMapping.entries_foldlM_merge {docs : List Doc} {m merged : TableMapping}
    (h : docs.foldlM TableMapping.merge m = .ok merged) :
    ∃ rows, (∀ row ∈ rows, row.2.IsNormal) ∧ merged.entries = Fields.putAll rows m.entries := by
  induction docs generalizing m with
  | nil =>
    cases h
    exact ⟨[], by simp, rfl⟩
  | cons d docs ih =>
    rw [List.foldlM_cons] at h
    obtain ⟨next, hnext, hrest⟩ := exists_of_bind_eq_ok h
    obtain ⟨first, hfirst, rfl⟩ := (merge_eq_ok_iff _ _ _).mp hnext
    obtain ⟨rows, hnormal, hentries⟩ := ih hrest
    refine ⟨first ++ rows, ?_, ?_⟩
    · exact List.forall_mem_append.mpr ⟨isNormal_entriesOfDoc hfirst, hnormal⟩
    · rw [hentries, Fields.putAll_append]
      rfl

theorem distinct_defaultEntries : Fields.Distinct defaultEntries := by
  unfold Fields.Distinct
  decide +kernel

theorem isNormal_defaultEntries : ∀ row ∈ defaultEntries, row.2.IsNormal := by decide +kernel

/-- **Export and import.** Whatever updates were merged into the defaults,
every entry has an index and no empty source type, and the exported mapping
gives the same entries in the same order, both when it is laid over the
defaults and when it is merged into the mapping itself. -/
theorem merge_toDoc_of_merges (docs : List Doc) (m : TableMapping)
    (h : docs.foldlM TableMapping.merge .defaults = .ok m) :
    (∀ row ∈ m.entries, row.2.index ≠ [] ∧ row.2.sourcetype ≠ some []) ∧
      (∃ imported, TableMapping.defaults.merge m.toDoc = .ok imported ∧
        imported.entries = m.entries) ∧
      ∃ again, m.merge m.toDoc = .ok again ∧ again.entries = m.entries := by
  obtain ⟨rows, hrows, hentries⟩ := TableMapping.entries_foldlM_merge h
  have hnormal : ∀ row ∈ m.entries, row.2.IsNormal := by
    rw [hentries]
    exact Fields.forall_mem_putAll hrows isNormal_defaultEntries
  have hdistinct : Fields.Distinct m.entries := by
    rw [hentries]
    exact Fields.distinct_putAll rows distinct_defaultEntries
  have hread := entriesOfDoc_toDoc hnormal
  have hover : Fields.putAll m.entries defaultEntries = m.entries := by
    calc Fields.putAll m.entries defaultEntries
        = Fields.putAll (Fields.putAll rows defaultEntries) defaultEntries := by rw [hentries]; rfl
      _ = Fields.putAll rows (Fields.putAll defaultEntries defaultEntries) :=
          Fields.putAll_putAll rows distinct_defaultEntries defaultEntries
      _ = Fields.putAll rows defaultEntries := by rw [Fields.putAll_self distinct_defaultEntries]
      _ = m.entries := hentries.symm
  exact ⟨hnormal, ⟨_, (merge_eq_ok_iff _ _ _).mpr ⟨_, hread, rfl⟩, hover⟩,
    ⟨_, (merge_eq_ok_iff _ _ _).mpr ⟨_, hread, rfl⟩, Fields.putAll_self hdistinct⟩⟩

/-- Two updates whose values are numbers, truth values, lists and nulls. -/
def oddUpdates : List Doc :=
  [.record [("Logins", .record [("index", .int 7), ("sourcetype", .bool false), ("note", .null)])],
    .record [("default", .record [("index", .list [.text "a", .null]), ("sourcetype", .text [])]),
      ("Logins", .record [("index", .text "auth"), ("sourcetype", .int 0)])]]

/-- What the odd updates make of the defaults survives an export. -/
theorem merge_toDoc_of_merges_odd :
    ∃ m, oddUpdates.foldlM TableMapping.merge .defaults = .ok m ∧
      m.find? (.text "Logins") = some ⟨"auth", some "0", []⟩ ∧
      m.fallback = ⟨"['a', None]", none, []⟩ ∧
      (∃ imported, TableMapping.defaults.merge m.toDoc = .ok imported ∧
        imported.entries = m.entries) ∧
      ∃ again, m.merge m.toDoc = .ok again ∧ again.entries = m.entries := by
  obtain ⟨-, himported, hagain⟩ := merge_toDoc_of_merges oddUpdates _ rfl
  exact ⟨_, rfl, rfl, rfl, himported, hagain⟩

end TwinQuery
