/-
# Resolving a table after a merge

A merge puts the entries of an update into a mapping one by one. A name that
is there keeps its place and takes the new entry, and a new name goes to the
end. So what is read at a name afterwards is the update's entry, else the
mapping's (`Fields.get?_putAll`), and of the names that are equal in lower case
those of the mapping come first, in their order, before those of the update
(`Fields.find?_putAll`). These two are the invariants of putting in one entry
(`Fields.get?_put`, `Fields.find?_put`), carried through the updates.

A table is resolved to its own entry, else to the first row whose name is
equal to it in lower case, else to the default. The search for that row goes
through the names in their order and fails at one that has no lower case, a
number or a date, if it comes to it (`TableMapping.exists_error_iff_blockedBy`);
a table that nothing blocks is resolved
(`TableMapping.resolve_eq_of_not_blockedBy`).

For names that are all texts, this says which of several spellings of a name
wins after a merge (`resolve_merge`). An update that has no spelling of a name
leaves it alone, unless the name is resolved to the default and the update
replaces that. Two texts are the same key only when they are equal, and no
other scalar is the same key as a text (`Scalar.sameKey_text_iff`).

Key definitions: `Fields.AllText`, `Scalar.hasLower`, `TableMapping.isLike`,
`TableMapping.BlockedBy`, `TableMapping.chosenRow`, `TableMapping.rowOver`,
`TableMapping.ResolvedOver`.
Key theorems: `Fields.get?_put`, `Fields.find?_putAll`,
`TableMapping.resolve_eq_of_not_blockedBy`,
`TableMapping.exists_error_iff_blockedBy`, `resolve_merge`.
-/
import TwinQuery.Proofs.Overlay
import TwinQuery.Proofs.PipelineToSpl

namespace TwinQuery

/-! ### Texts as keys -/

/-- Only the text itself is the same key as a text. -/
theorem Scalar.sameKey_text_iff (key : Scalar) (t : Text) :
    key.sameKey (.text t) ↔ key = .text t := by
  cases key <;> simp [sameKey, toInt?]

/-- A name that can be compared in lower case: a text, or bytes, which are
equal to no text. -/
def Scalar.hasLower : Scalar → Bool
  | .text _ => true
  | .bytes _ => true
  | _ => false

namespace Fields

variable {α : Type}

/-- Every key is a text. -/
def AllText (fields : List (Scalar × α)) : Prop := ∀ row ∈ fields, ∃ key : Text, row.1 = .text key

theorem get?_cons (key : Scalar) (value : α) (rest : List (Scalar × α)) (name : Text) :
    get? (.text name) ((key, value) :: rest) =
      if key = .text name then some value else get? (.text name) rest := by
  simp only [get?, Scalar.sameKey_text_iff]

theorem put_cons (k : Scalar) (v : α) (rest : List (Scalar × α)) (key : Text) (value : α) :
    put (.text key) value ((k, v) :: rest) =
      if k = .text key then (k, value) :: rest else (k, v) :: put (.text key) value rest := by
  simp only [put, Scalar.sameKey_text_iff]

/-- **A value is read where it was put**, and the others are left alone. -/
theorem get?_put (key name : Text) (value : α) (fields : List (Scalar × α)) :
    get? (.text name) (put (.text key) value fields) =
      if key = name then some value else get? (.text name) fields := by
  simp only [get?_put_eq_ite, Scalar.sameKey_text_iff, Scalar.text.injEq]

theorem allText_putAll {updates fields : List (Scalar × α)} (hu : AllText updates)
    (h : AllText fields) : AllText (putAll updates fields) :=
  forall_key_putAll (P := fun k => ∃ name : Text, k = .text name) hu h

/-! ### The first row of a kind -/

section

variable {p : Scalar × α → Bool} {q : Scalar → Bool} (hp : ∀ row, p row = q row.1)

include hp

/-- Putting a value keeps the first row of a kind in its place; a new row comes
after all others. -/
theorem find?_put (key : Text) (value : α) : ∀ fields : List (Scalar × α),
    (put (.text key) value fields).find? p =
      ((fields.find? p).map fun row => (row.1, if row.1 = .text key then value else row.2)).or
        (if q (.text key) then some (.text key, value) else none)
  | [] => by
    cases hkey : q (.text key) <;> simp [put, hp, hkey]
  | (k, v) :: rest => by
    have ih := find?_put key value rest
    rw [put_cons]
    by_cases hk : k = .text key
    · subst hk
      cases hkey : q (.text key) with
      | true => simp [hp, hkey]
      | false =>
        -- the row that was replaced is not of the kind, nor is any other row with its key
        have hother : ∀ row, rest.find? p = some row → row.1 ≠ .text key := by
          intro row hrow heq
          have hq := List.find?_some hrow
          rw [hp, heq, hkey] at hq
          cases hq
        rw [if_pos rfl, List.find?_cons_of_neg (by simp [hp, hkey]),
          List.find?_cons_of_neg (by simp [hp, hkey])]
        cases hrest : rest.find? p with
        | none => rfl
        | some row => simp [hother row hrest]
    · rw [if_neg hk]
      cases hq : q k with
      | true => simp [hp, hq, hk]
      | false =>
        rw [List.find?_cons_of_neg (by simp [hp, hq]), List.find?_cons_of_neg (by simp [hp, hq]),
          ih]

/-- **The first row of a kind after updates** is the one that was there, with
the update's value if it has one, else the first one of the update. -/
theorem find?_putAll (htext : ∀ key, q key → ∃ t : Text, key = .text t) :
    ∀ {updates : List (Scalar × α)}, AllText updates → ∀ fields : List (Scalar × α),
      (putAll updates fields).find? p =
        ((fields.find? p).map fun row => (row.1, (get? row.1 (ofPairs updates)).getD row.2)).or
          ((ofPairs updates).find? p)
  | [], _, fields => by simp [putAll, ofPairs, get?]
  | (key, value) :: updates, h, fields => by
    obtain ⟨⟨key, rfl⟩, hrest⟩ := List.forall_mem_cons.mp h
    have ih := find?_putAll htext hrest
    rw [putAll_cons, ih, find?_put hp key value]
    cases hfields : fields.find? p with
    | none =>
      rw [ofPairs_cons, ih]
      cases hkey : q (.text key) <;> simp [hp, hkey]
    | some row =>
      have hq := List.find?_some hfields
      rw [hp] at hq
      obtain ⟨t, ht⟩ := htext row.1 hq
      simp only [ht, ofPairs_cons, get?_putAll (.text t) updates, get?_cons, Option.map_some, Option.some_or]
      by_cases heq : t = key
      · subst heq
        simp
      · have hne : key ≠ t := fun h => heq h.symm
        simp [heq, hne, get?]

end

end Fields

namespace TableMapping

/-! ### Resolving a table -/

/-- Whether the name of a row is equal to a table in lower case. -/
def isLike (table : Text) (row : Scalar × Entry) : Bool :=
  row.1.text?.any fun name => Text.lower name == Text.lower table

theorem isLike_text (table name : Text) (entry : Entry) :
    isLike table (.text name, entry) = (Text.lower name == Text.lower table) := rfl

theorem exists_text_of_isLike {table : Text} {row : Scalar × Entry} (h : isLike table row) :
    ∃ name : Text, row.1 = .text name := by
  obtain ⟨key, entry⟩ := row
  cases key with
  | text name => exact ⟨name, rfl⟩
  | _ => cases h

/-- The rows that a search for a spelling of a table passes: those before the
first spelling, or all of them when there is none. -/
def rowsPassed (table : Text) (rows : List (Scalar × Entry)) : List (Scalar × Entry) :=
  rows.takeWhile fun row => !isLike table row

theorem rowsPassed_cons {table : Text} {row : Scalar × Entry} (h : isLike table row = false)
    (rest : List (Scalar × Entry)) :
    rowsPassed table (row :: rest) = row :: rowsPassed table rest :=
  List.takeWhile_cons_of_pos (by simp [h])

/-- What a search finds: the first spelling, or the first name before it that
has no lower case. -/
def found (table : Text) (rows : List (Scalar × Entry)) : Except Fault (Option (Text × Entry)) :=
  match (rowsPassed table rows).find? fun row => !row.1.hasLower with
  | some row => .error (.tableNotText row.1.kind)
  | none =>
    .ok ((rows.find? (isLike table)).bind fun row => row.1.text?.map fun name => (name, row.2))

/-- A name that can be compared and is no spelling is passed over. -/
theorem found_cons {table : Text} {row : Scalar × Entry} (hlike : isLike table row = false)
    (hlower : row.1.hasLower) (rest : List (Scalar × Entry)) :
    found table (row :: rest) = found table rest := by
  unfold found
  rw [rowsPassed_cons hlike, List.find?_cons_of_neg (by simp [hlower]),
    List.find?_cons_of_neg (by simp [hlike])]

theorem matchLower_eq_found (table : Text) : ∀ rows : List (Scalar × Entry),
    matchLower (Text.lower table) rows = found table rows
  | [] => rfl
  | (key, entry) :: rest => by
    have ih := matchLower_eq_found table rest
    cases key with
    | text name =>
      rw [matchLower]
      by_cases hname : Text.lower name = Text.lower table
      · simp [found, rowsPassed, isLike_text, Scalar.text?, hname]
      · rw [if_neg hname, ih, found_cons (by simp [isLike_text, hname]) rfl]
    | bytes values => rw [matchLower, ih, found_cons rfl rfl]
    | _ => rfl

/-- A table has no entry of its own, and a name of the given kind stands before
its first spelling, or anywhere when there is none. -/
def BlockedBy (stops : Scalar → Bool) (m : TableMapping) (table : Text) : Prop :=
  m.find? (.text table) = none ∧ ∃ row ∈ rowsPassed table m.entries, stops row.1

instance (stops : Scalar → Bool) (m : TableMapping) (table : Text) :
    Decidable (m.BlockedBy stops table) :=
  inferInstanceAs (Decidable (_ ∧ _))

/-- The row that a table is resolved to: its own, else the first one whose name
is equal to it in lower case, else the default. -/
def chosenRow (m : TableMapping) (table : Text) : Scalar × Entry :=
  match m.find? (.text table), m.entries.find? (isLike table) with
  | some entry, _ => (.text table, entry)
  | none, some row => row
  | none, none => (.text defaultName, m.fallback)

/-- **A table that is not blocked is resolved to the entry of its row**, and
that is the default when the row is named so. -/
theorem resolve_eq_of_not_blockedBy {m : TableMapping} {table : Text}
    (h : ¬ m.BlockedBy (fun key => !key.hasLower) table) :
    m.resolve table =
      .ok ((m.chosenRow table).2, decide ((m.chosenRow table).1 = .text defaultName)) := by
  have hflag : ∀ name : Text,
      (name == defaultName) = decide (Scalar.text name = .text defaultName) := by
    intro name
    rw [Bool.eq_iff_iff, beq_iff_eq, decide_eq_true_iff, Scalar.text.injEq]
  unfold resolve chosenRow
  cases hfind : m.find? (.text table) with
  | some entry => rw [hflag]
  | none =>
    have hpassed : (rowsPassed table m.entries).find? (fun row => !row.1.hasLower) = none :=
      List.find?_eq_none.mpr fun row hrow hstop => h ⟨hfind, row, hrow, hstop⟩
    rw [matchLower_eq_found, found, hpassed]
    cases hlike : m.entries.find? (isLike table) with
    | none => rw [decide_eq_true rfl]; rfl
    | some row =>
      obtain ⟨name, hname⟩ := exists_text_of_isLike (List.find?_some hlike)
      rw [Option.bind_some, hname, ← hflag]
      rfl

/-- **A table that is blocked is not resolved:** the search comes to a name
that has no lower case. -/
theorem resolve_eq_error_of_blockedBy {m : TableMapping} {table : Text}
    (h : m.BlockedBy (fun key => !key.hasLower) table) :
    ∃ row ∈ m.entries, row.1.hasLower = false ∧
      m.resolve table = .error (.tableNotText row.1.kind) := by
  obtain ⟨hfind, hstopped⟩ := h
  obtain ⟨row, hrow⟩ := Option.isSome_iff_exists.mp (List.find?_isSome.mpr hstopped)
  have hpassed : row ∈ rowsPassed table m.entries := List.mem_of_find?_eq_some hrow
  refine ⟨row, List.takeWhile_subset _ hpassed, by simpa using List.find?_some hrow, ?_⟩
  unfold resolve
  rw [hfind, matchLower_eq_found, found, hrow]
  rfl

theorem exists_error_iff_blockedBy {m : TableMapping} {table : Text} :
    (∃ fault, m.resolve table = .error fault) ↔ m.BlockedBy (fun key => !key.hasLower) table := by
  constructor
  · rintro ⟨fault, hfault⟩
    by_cases hblocked : m.BlockedBy (fun key => !key.hasLower) table
    · exact hblocked
    · rw [resolve_eq_of_not_blockedBy hblocked] at hfault
      cases hfault
  · intro hblocked
    obtain ⟨row, -, -, hfault⟩ := resolve_eq_error_of_blockedBy hblocked
    exact ⟨_, hfault⟩

theorem not_blockedBy_of_hasTextKeys {m : TableMapping} (hm : m.HasTextKeys) (table : Text) :
    ¬ m.BlockedBy (fun key => !key.hasLower) table := by
  rintro ⟨-, row, hrow, hstop⟩
  obtain ⟨name, hname⟩ := hm row (List.takeWhile_subset _ hrow)
  rw [hname] at hstop
  cases hstop

theorem resolve_eq {m : TableMapping} (hm : m.HasTextKeys) (table : Text) :
    m.resolve table =
      .ok ((m.chosenRow table).2, decide ((m.chosenRow table).1 = .text defaultName)) :=
  resolve_eq_of_not_blockedBy (not_blockedBy_of_hasTextKeys hm table)

/-! ### Merging -/

/-- The row that a table is resolved to once the update `u` is laid over the
rows `m`, in this order: the update's own entry of the name, the entry that was
there, the first spelling that was there (with the update's entry if it has
one for it), the first spelling in the update, and the default. -/
def rowOver (m u : List (Scalar × Entry)) (fallback : Entry) (table : Text) : Scalar × Entry :=
  match Fields.get? (.text table) u, Fields.get? (.text table) m with
  | some entry, _ => (.text table, entry)
  | none, some entry => (.text table, entry)
  | none, none =>
    match m.find? (isLike table), u.find? (isLike table) with
    | some (name, entry), _ => (name, (Fields.get? name u).getD entry)
    | none, some row => row
    | none, none => (.text defaultName, fallback)

section

variable {updates : List (Scalar × Entry)}

/-- A name that the update does not have. -/
theorem get?_ofPairs_eq_none {name : Text} (h : ∀ row ∈ updates, row.1 ≠ .text name) :
    Fields.get? (.text name) (Fields.ofPairs updates) = none :=
  Fields.get?_putAll_of_absent
    (fun row hrow hsame => h row hrow ((Scalar.sameKey_text_iff _ _).mp hsame)) []

theorem fallback_overlay (m : TableMapping)
    (h : Fields.get? (.text defaultName) (Fields.ofPairs updates) = none) :
    (m.overlay updates).fallback = m.fallback := by
  have hread : (m.overlay updates).find? (.text defaultName) =
      Fields.get? (.text defaultName) m.entries := by
    have hput := Fields.get?_putAll (.text defaultName) updates m.entries
    rw [h, Option.none_or] at hput
    exact hput
  exact Option.get_of_eq_some _ (hread.trans (Option.some_get _).symm)

variable (hu : Fields.AllText updates)

include hu

theorem find?_isLike_putAll (table : Text) (rows : List (Scalar × Entry)) :
    (Fields.putAll updates rows).find? (isLike table) =
      ((rows.find? (isLike table)).map fun row =>
        (row.1, (Fields.get? row.1 (Fields.ofPairs updates)).getD row.2)).or
          ((Fields.ofPairs updates).find? (isLike table)) := by
  refine Fields.find?_putAll (p := isLike table)
    (q := fun key => key.text?.any fun name => Text.lower name == Text.lower table)
    (fun _ => rfl) (fun key hkey => ?_) hu rows
  cases key with
  | text name => exact ⟨name, rfl⟩
  | _ => cases hkey

theorem chosenRow_overlay (m : TableMapping) (table : Text) :
    (m.overlay updates).chosenRow table =
      rowOver m.entries (Fields.ofPairs updates) (m.overlay updates).fallback table := by
  have hname : (m.overlay updates).find? (.text table) =
      (Fields.get? (.text table) (Fields.ofPairs updates)).or
        (Fields.get? (.text table) m.entries) :=
    Fields.get?_putAll _ updates m.entries
  have hlike : (m.overlay updates).entries.find? (isLike table) = _ :=
    find?_isLike_putAll hu table m.entries
  unfold chosenRow rowOver
  rw [hname, hlike]
  cases Fields.get? (.text table) (Fields.ofPairs updates) with
  | some entry => rfl
  | none =>
    cases Fields.get? (.text table) m.entries with
    | some entry => rfl
    | none =>
      cases m.entries.find? (isLike table) with
      | some row => rfl
      | none => cases (Fields.ofPairs updates).find? (isLike table) <;> rfl

/-- A table that the update has no spelling of. -/
theorem find?_isLike_ofPairs_eq_none {table : Text}
    (h : ∀ row ∈ updates, isLike table row = false) :
    (Fields.ofPairs updates).find? (isLike table) = none := by
  induction updates with
  | nil => rfl
  | cons row updates ih =>
    obtain ⟨hrow, hrest⟩ := List.forall_mem_cons.mp h
    have htexts := (List.forall_mem_cons.mp hu).2
    have hnone : [row].find? (isLike table) = none := by simp [hrow]
    rw [Fields.ofPairs_cons, find?_isLike_putAll htexts, hnone, ih htexts hrest]
    rfl

/-- **An update without a spelling of a table leaves its row alone**, unless
that is the default and the update replaces it. -/
theorem chosenRow_overlay_of_not_isLike (m : TableMapping) (hm : m.HasTextKeys) {table : Text}
    (hlike : ∀ row ∈ updates, isLike table row = false)
    (hdefault : (∀ row ∈ updates, row.1 ≠ .text defaultName) ∨
      (m.chosenRow table).1 ≠ .text defaultName) :
    (m.overlay updates).chosenRow table = m.chosenRow table := by
  -- no name that is equal to the table in lower case is in the update
  have hnone : ∀ name : Text, Text.lower name = Text.lower table →
      Fields.get? (.text name) (Fields.ofPairs updates) = none := by
    intro name hname
    refine get?_ofPairs_eq_none fun row hrow heq => ?_
    have hrowlike := hlike row hrow
    obtain ⟨key, entry⟩ := row
    obtain rfl : key = .text name := heq
    rw [isLike_text, hname] at hrowlike
    simp at hrowlike
  rw [chosenRow_overlay hu, rowOver, hnone table rfl, find?_isLike_ofPairs_eq_none hu hlike]
  have hread : m.find? (.text table) = Fields.get? (.text table) m.entries := rfl
  cases hown : Fields.get? (.text table) m.entries with
  | some entry => simp [chosenRow, hread, hown]
  | none =>
    cases hspelling : m.entries.find? (isLike table) with
    | some row =>
      obtain ⟨key, entry⟩ := row
      obtain ⟨name, hname⟩ := hm _ (List.mem_of_find?_eq_some hspelling)
      obtain rfl : key = .text name := hname
      have hrow := List.find?_some hspelling
      rw [isLike_text, beq_iff_eq] at hrow
      simp [chosenRow, hread, hown, hspelling, hnone name hrow]
    | none =>
      have hchosen : m.chosenRow table = (.text defaultName, m.fallback) := by
        simp [chosenRow, hread, hown, hspelling]
      rcases hdefault with hkept | hother
      · have hfallback := fallback_overlay m (get?_ofPairs_eq_none hkept)
        simp only [hfallback, hchosen]
      · exact absurd (congrArg Prod.fst hchosen) hother

end

/-- How a table is resolved once `updates` are merged into `m`. -/
structure ResolvedOver (m : TableMapping) (updates : List (Scalar × Entry))
    (merged : TableMapping) (table : Text) : Prop where
  /-- The entry is the one of the chosen row, and it counts as the default when
  the row is named so. -/
  chosen : let row := rowOver m.entries (Fields.ofPairs updates) merged.fallback table
    merged.resolve table = .ok (row.2, decide (row.1 = .text defaultName))
  /-- An update without a spelling of the table changes nothing, unless the
  table is resolved to the default and the update has one. -/
  kept : (∀ row ∈ updates, isLike table row = false) →
    ((∀ row ∈ updates, row.1 ≠ .text defaultName) ∨
      ∃ entry, m.resolve table = .ok (entry, false)) →
    merged.resolve table = m.resolve table

theorem resolvedOver_overlay {m : TableMapping} (hm : m.HasTextKeys)
    {updates : List (Scalar × Entry)} (hu : Fields.AllText updates) (table : Text) :
    m.ResolvedOver updates (m.overlay updates) table := by
  have htexts : (m.overlay updates).HasTextKeys := Fields.allText_putAll hu hm
  constructor
  · rw [resolve_eq htexts, chosenRow_overlay hu]
  · intro hlike hdefault
    have hrow : (m.overlay updates).chosenRow table = m.chosenRow table := by
      refine chosenRow_overlay_of_not_isLike hu m hm hlike (hdefault.imp_right ?_)
      rintro ⟨entry, hresolve⟩ hname
      rw [resolve_eq hm, hname] at hresolve
      simp at hresolve
    rw [resolve_eq htexts, resolve_eq hm, hrow]

end TableMapping

/-- **Resolving a table after a merge.** An update with texts for names is put
into the mapping. A table is then resolved to the update's entry of that name,
else to the entry that the mapping had, else to that of the first spelling in
the mapping, which the update may have replaced, else to that of the first
spelling in the update, else to the default; and it counts as the default when
the chosen name is `default`. An update without a spelling of the table
changes nothing, unless the table is resolved to the default and the update
has one. This holds of an update that is a document and of one whose rows are
documents or entries. -/
theorem resolve_merge (m : TableMapping) (hm : m.HasTextKeys)
    (updates : List (Scalar × Entry)) (hu : Fields.AllText updates) (table : Text) :
    (∀ d, entriesOfDoc d = .ok updates →
      ∃ merged, m.merge d = .ok merged ∧ m.ResolvedOver updates merged table) ∧
    ∀ rows, entriesOfRows rows = .ok updates →
      ∃ merged, m.mergeRows rows = .ok merged ∧ m.ResolvedOver updates merged table := by
  have hresolved := TableMapping.resolvedOver_overlay hm hu table
  constructor
  · intro d hd
    refine ⟨m.overlay updates, ?_, hresolved⟩
    rw [TableMapping.merge, hd]
    rfl
  · intro rows hrows
    refine ⟨m.overlay updates, ?_, hresolved⟩
    rw [TableMapping.mergeRows, hrows]
    rfl

/-- A mapping with one spelling of a table. -/
def loginMapping : TableMapping :=
  ⟨[(.text "Logins", ⟨"auth", none, []⟩), (.text defaultName, ⟨"main", none, []⟩)], 1, by decide⟩

/-- An update with another spelling of that table, and with two of a new one. -/
def loginUpdate : Doc :=
  .record [("LOGINS", .record [("index", .text "upper")]),
    ("Alerts", .record [("index", .text "soc")]), ("ALERTS", .record [("index", .text "other")])]

/-- The entries of that update. -/
def loginEntries : List (Scalar × Entry) :=
  [(.text "LOGINS", ⟨"upper", none, []⟩), (.text "Alerts", ⟨"soc", none, []⟩),
    (.text "ALERTS", ⟨"other", none, []⟩)]

/-- The same update with one entry given as it is. -/
def loginRows : List (Scalar × EntryValue) :=
  [(.text "LOGINS", .doc (.record [("index", .text "upper")])),
    (.text "Alerts", .entry ⟨"soc", none, []⟩),
    (.text "ALERTS", .doc (.record [("index", .text "other")]))]

/-- The spelling of the mapping comes before that of the update, and the first
new spelling before the second, also when its entry is given as it is. -/
theorem resolve_merge_spellings :
    loginMapping.HasTextKeys ∧ Fields.AllText loginEntries ∧
      entriesOfDoc loginUpdate = .ok loginEntries ∧
      (∃ merged, loginMapping.merge loginUpdate = .ok merged ∧
        merged.resolve "logins" = .ok (⟨"auth", none, []⟩, false) ∧
        merged.resolve "alerts" = .ok (⟨"soc", none, []⟩, false) ∧
        merged.resolve "Mail" = loginMapping.resolve "Mail") ∧
      entriesOfRows loginRows = .ok loginEntries ∧
      ∃ merged, loginMapping.mergeRows loginRows = .ok merged ∧
        merged.resolve "alerts" = .ok (⟨"soc", none, []⟩, false) := by
  have hm : loginMapping.HasTextKeys := by simp [TableMapping.HasTextKeys, loginMapping]
  have hu : Fields.AllText loginEntries := by simp [Fields.AllText, loginEntries]
  have hd : entriesOfDoc loginUpdate = .ok loginEntries := rfl
  have hrows : entriesOfRows loginRows = .ok loginEntries := rfl
  obtain ⟨merged, hmerged, hlogins⟩ := (resolve_merge loginMapping hm _ hu "logins").1 _ hd
  obtain ⟨_, heq, halerts⟩ := (resolve_merge loginMapping hm _ hu "alerts").1 _ hd
  obtain rfl := Except.ok.inj (hmerged.symm.trans heq)
  obtain ⟨_, heq, hmail⟩ := (resolve_merge loginMapping hm _ hu "Mail").1 _ hd
  obtain rfl := Except.ok.inj (hmerged.symm.trans heq)
  obtain ⟨given, hgiven, hrow⟩ := (resolve_merge loginMapping hm _ hu "alerts").2 _ hrows
  refine ⟨hm, hu, hd, ⟨merged, hmerged, hlogins.chosen.trans ?_, halerts.chosen.trans ?_,
    hmail.kept ?_ (Or.inl ?_)⟩, hrows, given, hgiven, hrow.chosen.trans ?_⟩
  · rfl
  · rfl
  · decide
  · decide
  · rfl

end TwinQuery
