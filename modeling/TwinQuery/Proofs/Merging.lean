/-
# Merges in a row

A merge turns each value of an update into an entry and lays the entries over
the mapping. Whether a value describes an entry, and which one, does not
depend on its name (`Entry.ofDoc_eq_ok_iff`), so laying documents over each
other and turning them into entries can be exchanged
(`entriesOfDoc_overlaidBy`). With the laws of overlays this makes two merges
the same as one merge of both updates, the second laid over the first, and a
merge that is made again changes nothing.

Two merges in the other order give the entries in another order. When the
updates have no name in common, not even in lower case, every table is still
resolved alike: for each table one of the two updates has no spelling of it
(`TableMapping.not_isLike_of_apartInLower`), and that one does not matter.

Key definitions: `Doc.updates`, `Doc.overlaidBy`, `ApartInLower`,
`TableMapping.OverlayLaws`.
Key theorems: `TableMapping.overlayLaws`, `merge_merge`.
-/
import TwinQuery.Proofs.Overlay
import TwinQuery.Proofs.Resolution
import TwinQuery.Proofs.SessionRuns

namespace TwinQuery

/-! ### Entries of documents -/

/-- The entry that a document describes, under any name. -/
def Entry.ofDoc? (d : Doc) : Option Entry := (Entry.ofDoc .null d).toOption

/-- The name matters only for the fault. -/
theorem Entry.ofDoc_eq_ok_iff (name : Scalar) (d : Doc) (e : Entry) :
    Entry.ofDoc name d = .ok e ↔ Entry.ofDoc? d = some e := by
  unfold Entry.ofDoc? Entry.ofDoc
  cases d.field? "index" with
  | none => simp [Except.toOption]
  | some index =>
    by_cases hindex : index.isTruthy <;> by_cases hlong : Entry.isTooLong d <;>
      simp [hindex, hlong, Except.toOption]

namespace Fields

variable {α β : Type}

theorem map_put (g : α → β) (key : Scalar) (value : α) : ∀ fields : List (Scalar × α),
    (put key value fields).map (Prod.map id g) = put key (g value) (fields.map (Prod.map id g))
  | [] => rfl
  | (k, v) :: rest => by
    have ih := map_put g key value rest
    by_cases hk : k.sameKey key <;> simp [put, hk, ih]

/-- Values can be changed before or after they are laid over others. -/
theorem map_putAll (g : α → β) : ∀ updates fields : List (Scalar × α),
    (putAll updates fields).map (Prod.map id g) =
      putAll (updates.map (Prod.map id g)) (fields.map (Prod.map id g))
  | [], _ => rfl
  | (key, value) :: updates, fields => by
    have ih := map_putAll g updates (put key value fields)
    rw [map_put] at ih
    exact ih

theorem map_ofPairs (g : α → β) (pairs : List (Scalar × α)) :
    (ofPairs pairs).map (Prod.map id g) = ofPairs (pairs.map (Prod.map id g)) :=
  map_putAll g pairs []

end Fields

theorem entriesOfDoc_cons_eq_ok_iff (name : Scalar) (d : Doc) (fields : List (Scalar × Doc))
    (rows : List (Scalar × Entry)) :
    entriesOfDoc (.object ((name, d) :: fields)) = .ok rows ↔
      ∃ e rest, Entry.ofDoc? d = some e ∧ entriesOfDoc (.object fields) = .ok rest ∧
        rows = (name, e) :: rest := by
  simp only [← Entry.ofDoc_eq_ok_iff name, entriesOfDoc, entriesOfRows, List.map_cons,
    List.mapM_cons, Prod.map, id, Entry.ofValue]
  constructor
  · intro h
    obtain ⟨row, hrow, h⟩ := exists_of_bind_eq_ok h
    obtain ⟨e, he, hrow⟩ := exists_of_bind_eq_ok hrow
    obtain ⟨rest, hrest, h⟩ := exists_of_bind_eq_ok h
    cases hrow
    cases h
    exact ⟨e, rest, he, hrest, rfl⟩
  · rintro ⟨e, rest, he, hrest, rfl⟩
    rw [he, hrest]
    rfl

/-- The entries of an object are those of its values, if all have one. -/
theorem entriesOfDoc_object_eq_ok_iff (fields : List (Scalar × Doc)) (rows : List (Scalar × Entry)) :
    entriesOfDoc (.object fields) = .ok rows ↔
      fields.map (Prod.map id Entry.ofDoc?) = rows.map (Prod.map id some) := by
  induction fields generalizing rows with
  | nil => cases rows <;> simp [entriesOfDoc, entriesOfRows, pure, Except.pure]
  | cons field fields ih =>
    obtain ⟨name, d⟩ := field
    rw [entriesOfDoc_cons_eq_ok_iff]
    constructor
    · rintro ⟨e, rest, he, hrest, rfl⟩
      simp [he, (ih rest).mp hrest]
    · intro h
      cases rows with
      | nil => cases h
      | cons row rest =>
        obtain ⟨hrow, hrest⟩ := List.cons.inj h
        obtain ⟨hname, he⟩ := Prod.mk.inj hrow
        obtain rfl : name = row.1 := hname
        exact ⟨row.2, rest, he, (ih rest).mpr hrest, rfl⟩

/-! ### One update after another -/

/-- The fields of an update; what is no object has none. -/
def Doc.updates (d : Doc) : List (Scalar × Doc) := d.fields?.getD []

/-- One update for two: the fields of both, each at its first place and with
its last value. -/
def Doc.overlaidBy (u v : Doc) : Doc := .object (Fields.ofPairs (u.updates ++ v.updates))

/-- What is no object and is taken for an update describes no entries. -/
theorem entriesOfDoc_updates {d : Doc} {rows : List (Scalar × Entry)} (h : entriesOfDoc d = .ok rows) :
    entriesOfDoc (.object d.updates) = .ok rows := by
  cases d with
  | object fields => exact h
  | _ =>
    simp only [entriesOfDoc] at h
    split at h
    · cases h
    · exact h

/-- The names of the entries are those of the update. -/
theorem keys_entriesOfDoc {d : Doc} {rows : List (Scalar × Entry)} (h : entriesOfDoc d = .ok rows) :
    d.updates.map Prod.fst = rows.map Prod.fst := by
  have hrows := (entriesOfDoc_object_eq_ok_iff _ _).mp (entriesOfDoc_updates h)
  have hkeys := congrArg (List.map Prod.fst) hrows
  simpa [Function.comp_def] using hkeys

/-- **Documents laid over each other describe their entries laid over each
other.** -/
theorem entriesOfDoc_overlaidBy {u v : Doc} {rows others : List (Scalar × Entry)}
    (hu : entriesOfDoc u = .ok rows) (hv : entriesOfDoc v = .ok others) :
    entriesOfDoc (u.overlaidBy v) = .ok (Fields.ofPairs (rows ++ others)) := by
  have hrows := (entriesOfDoc_object_eq_ok_iff _ _).mp (entriesOfDoc_updates hu)
  have hothers := (entriesOfDoc_object_eq_ok_iff _ _).mp (entriesOfDoc_updates hv)
  rw [Doc.overlaidBy, entriesOfDoc_object_eq_ok_iff, Fields.map_ofPairs, Fields.map_ofPairs,
    List.map_append, List.map_append, hrows, hothers]

theorem merge_eq_ok_iff (m : TableMapping) (d : Doc) (merged : TableMapping) :
    m.merge d = .ok merged ↔ ∃ rows, entriesOfDoc d = .ok rows ∧ merged = m.overlay rows := by
  unfold TableMapping.merge
  constructor
  · intro h
    obtain ⟨rows, hrows, h⟩ := exists_of_bind_eq_ok h
    cases h
    exact ⟨rows, hrows, rfl⟩
  · rintro ⟨rows, hrows, rfl⟩
    rw [hrows]
    rfl

/-! ### Updates that have no name in common -/

/-- No two texts of the two lists are equal in lower case. -/
def ApartInLower (names others : List Scalar) : Prop :=
  ∀ s t : Text, .text s ∈ names → .text t ∈ others → Text.lower s ≠ Text.lower t

namespace TableMapping

theorem text_mem_of_isLike {table : Text} {rows : List (Scalar × Entry)} {row : Scalar × Entry}
    (hrow : row ∈ rows) (hlike : isLike table row) :
    ∃ name : Text, .text name ∈ rows.map Prod.fst ∧ Text.lower name = Text.lower table := by
  obtain ⟨key, entry⟩ := row
  cases key with
  | text name =>
    rw [isLike_text, beq_iff_eq] at hlike
    exact ⟨name, List.mem_map_of_mem hrow, hlike⟩
  | _ => cases hlike

/-- **One of two updates that are apart has no spelling of a table.** -/
theorem not_isLike_of_apartInLower {u v : List (Scalar × Entry)}
    (h : ApartInLower (u.map Prod.fst) (v.map Prod.fst)) (table : Text) :
    (∀ row ∈ u, isLike table row = false) ∨ ∀ row ∈ v, isLike table row = false := by
  by_cases hu : ∃ row ∈ u, isLike table row
  · obtain ⟨row, hrow, hlike⟩ := hu
    obtain ⟨s, hs, hslower⟩ := text_mem_of_isLike hrow hlike
    refine Or.inr fun other hother => Bool.eq_false_iff.mpr fun hlike' => ?_
    obtain ⟨t, ht, htlower⟩ := text_mem_of_isLike hother hlike'
    exact h s t hs ht (hslower.trans htlower.symm)
  · exact Or.inl fun row hrow => Bool.eq_false_iff.mpr fun hlike => hu ⟨row, hrow, hlike⟩

section

variable {u v : List (Scalar × Entry)}

/-- An update without a spelling of a table has no entry for one either. -/
theorem get?_ofPairs_of_not_isLike {table name : Text}
    (hlike : ∀ row ∈ u, isLike table row = false) (hname : Text.lower name = Text.lower table) :
    Fields.get? (.text name) (Fields.ofPairs u) = none := by
  refine get?_ofPairs_eq_none fun row hrow heq => ?_
  have hrowlike := hlike row hrow
  obtain ⟨key, entry⟩ := row
  obtain rfl : key = .text name := heq
  rw [isLike_text, hname] at hrowlike
  simp at hrowlike

/-- What is read at a name does not depend on the order of two updates of which
one has no spelling of it. -/
theorem get?_putAll_comm {table : Text} (hlike : ∀ row ∈ u, isLike table row = false)
    (rows : List (Scalar × Entry)) :
    Fields.get? (.text table) (Fields.putAll v (Fields.putAll u rows)) =
      Fields.get? (.text table) (Fields.putAll u (Fields.putAll v rows)) := by
  have hnone := get?_ofPairs_of_not_isLike hlike (rfl : Text.lower table = Text.lower table)
  rw [Fields.get?_putAll _ v, Fields.get?_putAll _ u, Fields.get?_putAll _ u,
    Fields.get?_putAll _ v, hnone, Option.none_or, Option.none_or]

/-- Nor does the first spelling of a table. -/
theorem find?_isLike_putAll_comm (hu : Fields.AllText u) (hv : Fields.AllText v) {table : Text}
    (hlike : ∀ row ∈ u, isLike table row = false)
    (rows : List (Scalar × Entry)) :
    (Fields.putAll v (Fields.putAll u rows)).find? (isLike table) =
      (Fields.putAll u (Fields.putAll v rows)).find? (isLike table) := by
  have hnone := find?_isLike_ofPairs_eq_none hu hlike
  -- the update without a spelling changes no row that is one
  have hkept : ∀ others : List (Scalar × Entry),
      (Fields.putAll u others).find? (isLike table) = others.find? (isLike table) := by
    intro others
    rw [find?_isLike_putAll hu table others, hnone, Option.or_none]
    cases hfind : others.find? (isLike table) with
    | none => rfl
    | some row =>
      obtain ⟨key, entry⟩ := row
      have hrow := List.find?_some hfind
      cases key with
      | text name =>
        rw [isLike_text, beq_iff_eq] at hrow
        rw [Option.map_some, get?_ofPairs_of_not_isLike hlike hrow]
        rfl
      | _ => cases hrow
  rw [hkept, find?_isLike_putAll hv, find?_isLike_putAll hv, hkept]

end

/-- The row of a table depends on what is read at its name, on the first
spelling of it and on the default. -/
theorem chosenRow_congr {m n : TableMapping} {table : Text}
    (hname : m.find? (.text table) = n.find? (.text table))
    (hlike : m.entries.find? (isLike table) = n.entries.find? (isLike table))
    (hdefault : m.find? (.text defaultName) = n.find? (.text defaultName)) :
    m.chosenRow table = n.chosenRow table := by
  have hfallback : m.fallback = n.fallback := by
    have hm : m.find? (.text defaultName) = some m.fallback := (Option.some_get _).symm
    have hn : n.find? (.text defaultName) = some n.fallback := (Option.some_get _).symm
    exact Option.some.inj (hm.symm.trans (hdefault.trans hn))
  unfold chosenRow
  rw [hname, hlike, hfallback]

/-- **Updates that are apart can be exchanged**, as far as tables are
resolved. -/
theorem chosenRow_overlay_comm {u v : List (Scalar × Entry)} (hu : Fields.AllText u)
    (hv : Fields.AllText v) (hapart : ApartInLower (u.map Prod.fst) (v.map Prod.fst))
    (m : TableMapping) (table : Text) :
    ((m.overlay u).overlay v).chosenRow table = ((m.overlay v).overlay u).chosenRow table := by
  have hread : ∀ name : Text, ((m.overlay u).overlay v).find? (.text name) =
      ((m.overlay v).overlay u).find? (.text name) := by
    intro name
    rcases not_isLike_of_apartInLower hapart name with hlike | hlike
    · exact get?_putAll_comm hlike m.entries
    · exact (get?_putAll_comm hlike m.entries).symm
  refine chosenRow_congr (hread table) ?_ (hread defaultName)
  rcases not_isLike_of_apartInLower hapart table with hlike | hlike
  · exact find?_isLike_putAll_comm hu hv hlike m.entries
  · exact (find?_isLike_putAll_comm hv hu hlike m.entries).symm

/-- What holds of two updates by entries that are laid over a mapping. -/
structure OverlayLaws (m : TableMapping) (u v : List (Scalar × Entry)) : Prop where
  /-- Two updates are one: their entries, each at its first place and with its
  last value. -/
  composed : ((m.overlay u).overlay v).entries = (m.overlay (Fields.ofPairs (u ++ v))).entries
  /-- They count as two. -/
  version : ((m.overlay u).overlay v).version = (m.overlay (Fields.ofPairs (u ++ v))).version + 1
  /-- An update that is made again changes no entry and no place. -/
  repeated : ((m.overlay u).overlay u).entries = (m.overlay u).entries
  /-- Updates that have no name in common, not even in lower case, can be
  exchanged: every table is resolved alike. -/
  exchanged : m.HasTextKeys → Fields.AllText u → Fields.AllText v →
    ApartInLower (u.map Prod.fst) (v.map Prod.fst) → ∀ table, ∃ entry usedDefault,
      ((m.overlay u).overlay v).resolve table = .ok (entry, usedDefault) ∧
      ((m.overlay v).overlay u).resolve table = .ok (entry, usedDefault)

theorem overlayLaws (m : TableMapping) (u v : List (Scalar × Entry)) : OverlayLaws m u v where
  composed := by
    calc Fields.putAll v (Fields.putAll u m.entries)
        = Fields.putAll (u ++ v) m.entries := (Fields.putAll_append u v m.entries).symm
      _ = Fields.putAll (Fields.ofPairs (u ++ v)) m.entries :=
          (Fields.putAll_ofPairs (u ++ v) m.entries).symm
  version := rfl
  repeated := Fields.putAll_idem u m.entries
  exchanged hm hu hv hapart table := by
    have huv : ((m.overlay u).overlay v).HasTextKeys :=
      Fields.allText_putAll hv (Fields.allText_putAll hu hm)
    have hvu : ((m.overlay v).overlay u).HasTextKeys :=
      Fields.allText_putAll hu (Fields.allText_putAll hv hm)
    refine ⟨_, _, resolve_eq huv table, ?_⟩
    rw [resolve_eq hvu, chosenRow_overlay_comm hu hv hapart m table]

end TableMapping

theorem allText_iff_keys {α : Type} (fields : List (Scalar × α)) :
    Fields.AllText fields ↔ ∀ key ∈ fields.map Prod.fst, ∃ t : Text, key = .text t := by
  simp [Fields.AllText]

/-- **Merges in a row.** Two merges give the entries of one merge of both
updates, the second laid over the first, in the same order and in the next
version. A merge that is made again changes no entry and no order. When all
names are texts and the updates have none in common in lower case, every table
is resolved alike after the merges in the other order. The same holds of
updates that are given as entries. -/
theorem merge_merge (m : TableMapping) :
    (∀ (u v : Doc) (first second : TableMapping), m.merge u = .ok first →
      first.merge v = .ok second →
      (∃ both, m.merge (u.overlaidBy v) = .ok both ∧ second.entries = both.entries ∧
        second.version = both.version + 1) ∧
      (∃ again, first.merge u = .ok again ∧ again.entries = first.entries) ∧
      (m.HasTextKeys → Fields.AllText u.updates → Fields.AllText v.updates →
        ApartInLower (u.updates.map Prod.fst) (v.updates.map Prod.fst) →
        ∃ first' second', m.merge v = .ok first' ∧ first'.merge u = .ok second' ∧
          ∀ table, ∃ entry usedDefault, second.resolve table = .ok (entry, usedDefault) ∧
            second'.resolve table = .ok (entry, usedDefault))) ∧
    ∀ u v : List (Scalar × Entry), TableMapping.OverlayLaws m u v := by
  refine ⟨?_, m.overlayLaws⟩
  intro u v first second hfirst hsecond
  obtain ⟨rows, hrows, rfl⟩ := (merge_eq_ok_iff _ _ _).mp hfirst
  obtain ⟨others, hothers, rfl⟩ := (merge_eq_ok_iff _ _ _).mp hsecond
  have laws := m.overlayLaws rows others
  have hboth := entriesOfDoc_overlaidBy hrows hothers
  refine ⟨⟨_, (merge_eq_ok_iff _ _ _).mpr ⟨_, hboth, rfl⟩, laws.composed, laws.version⟩,
    ⟨_, (merge_eq_ok_iff _ _ _).mpr ⟨_, hrows, rfl⟩, laws.repeated⟩, ?_⟩
  intro hm hu hv hapart
  rw [keys_entriesOfDoc hrows, keys_entriesOfDoc hothers] at hapart
  rw [allText_iff_keys, keys_entriesOfDoc hrows, ← allText_iff_keys] at hu
  rw [allText_iff_keys, keys_entriesOfDoc hothers, ← allText_iff_keys] at hv
  exact ⟨_, _, (merge_eq_ok_iff _ _ _).mpr ⟨_, hothers, rfl⟩,
    (merge_eq_ok_iff _ _ _).mpr ⟨_, hrows, rfl⟩, laws.exchanged hm hu hv hapart⟩

/-- An update with a new table and another default. -/
def mailUpdate : Doc :=
  .record [("Mail", .record [("index", .text "o365")]),
    ("default", .record [("index", .text "misc")])]

/-- The update with other spellings of the logins and the one with the default,
in both orders: the entries of the first order are those of one merge, and the
alerts and an unknown table are found alike. -/
theorem merge_merge_logins :
    ∃ first second both again first' second', loginMapping.merge loginUpdate = .ok first ∧
      first.merge mailUpdate = .ok second ∧
      loginMapping.merge (loginUpdate.overlaidBy mailUpdate) = .ok both ∧
      second.entries = both.entries ∧ second.version = both.version + 1 ∧
      first.merge loginUpdate = .ok again ∧ again.entries = first.entries ∧
      loginMapping.merge mailUpdate = .ok first' ∧ first'.merge loginUpdate = .ok second' ∧
      second.entries ≠ second'.entries ∧
      second'.resolve "alerts" = .ok (⟨"soc", none, []⟩, false) ∧
      second'.resolve "Files" = .ok (⟨"misc", none, []⟩, true) := by
  have hm : loginMapping.HasTextKeys := by simp [TableMapping.HasTextKeys, loginMapping]
  have hu : Fields.AllText loginUpdate.updates := by
    simp [Fields.AllText, Doc.updates, loginUpdate, Doc.record, Doc.fields?]
  have hv : Fields.AllText mailUpdate.updates := by
    simp [Fields.AllText, Doc.updates, mailUpdate, Doc.record, Doc.fields?]
  have hapart : ApartInLower (loginUpdate.updates.map Prod.fst)
      (mailUpdate.updates.map Prod.fst) := by
    intro s t hs ht
    simp only [Doc.updates, loginUpdate, mailUpdate, Doc.record, Doc.fields?, Option.getD_some,
      List.map_cons, List.map_nil, List.mem_cons, List.not_mem_nil, or_false,
      Scalar.text.injEq] at hs ht
    rcases hs with rfl | rfl | rfl <;> rcases ht with rfl | rfl <;> decide
  obtain ⟨⟨both, hboth, hentries, hversion⟩, ⟨again, hagain, hsame⟩, hexchanged⟩ :=
    (merge_merge loginMapping).1 loginUpdate mailUpdate _ _ rfl rfl
  obtain ⟨first', second', hfirst', hsecond', hresolve⟩ := hexchanged hm hu hv hapart
  refine ⟨_, _, both, again, first', second', rfl, rfl, hboth, hentries, hversion, hagain, hsame,
    hfirst', hsecond', ?_, ?_, ?_⟩
  · cases hfirst'
    cases hsecond'
    decide
  · obtain ⟨entry, usedDefault, hone, hother⟩ := hresolve "alerts"
    rw [hother, ← hone]
    rfl
  · obtain ⟨entry, usedDefault, hone, hother⟩ := hresolve "Files"
    rw [hother, ← hone]
    rfl

end TwinQuery
