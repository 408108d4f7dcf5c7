/-
# Laying fields over fields

Putting a value at a key keeps the place and the spelling of a key that is
there and adds a new key at the end. Two scalars are the same key when one
scalar represents both (`Scalar.sameKey_iff`), so being the same key is an
equivalence, and that is all that the laws here rest on.

A put into updates can be made after the updates instead (`Fields.putAll_put`).
So updates that were gathered first, each key at its first place and with its
last value, do what they do one by one (`Fields.putAll_ofPairs`), and two
overlays in a row are one overlay with the second laid over the first
(`Fields.putAll_putAll`). An overlay that is made again changes nothing
(`Fields.putAll_idem`). What is read afterwards is the update, else what was
there (`Fields.get?_putAll`). The keys that were there stay in front, and new
ones follow in the order of the updates (`Fields.keys_putAll`).

Key definitions: `Scalar.representative`, `Fields.Distinct`.
Key theorems: `Scalar.sameKey_iff`, `Fields.putAll_put`,
`Fields.putAll_ofPairs`, `Fields.putAll_putAll`, `Fields.get?_putAll`,
`Fields.putAll_idem`, `Fields.keys_putAll`.
-/
import TwinQuery.Document.Basic
import TwinQuery.Proofs.Magnitude

namespace TwinQuery

/-! ### One scalar for each key -/

namespace Scalar

/-- The scalar that stands for all that are the same key: the integer for what
is equal to one, and the time in universal time for a stamp. -/
def representative : Scalar → Scalar
  | .bool b => .int (if b then 1 else 0)
  | .float x => (x.integer?.map Scalar.int).getD (.float x)
  | .stamp s => .stamp ⟨s.instant, if s.offset.isSome then some 0 else none⟩
  | s => s

theorem representative_float_eq_iff (x y : Binary64) :
    (Scalar.float x).representative = (Scalar.float y).representative ↔
      x = y ∨ ∃ i, x.integer? = some i ∧ y.integer? = some i := by
  constructor
  · intro h
    cases hx : x.integer? with
    | none =>
      cases hy : y.integer? with
      | none => exact Or.inl (by simpa [representative, hx, hy] using h)
      | some j => simp [representative, hx, hy] at h
    | some i =>
      cases hy : y.integer? with
      | none => simp [representative, hx, hy] at h
      | some j => exact Or.inr ⟨i, rfl, by simpa [representative, hx, hy, eq_comm] using h⟩
  · rintro (rfl | ⟨i, hx, hy⟩)
    · rfl
    · simp [representative, hx, hy]

theorem sameKey_float_iff (x : Binary64) {b : Scalar} (hb : b.kind ≠ .float) :
    (Scalar.float x).sameKey b ↔ (Scalar.float x).representative = b.representative := by
  cases b with
  | float y => exact absurd rfl hb
  | _ =>
    cases hx : x.integer? <;>
      simp [sameKey, toInt?, representative, Binary64.equalsInt_iff_integer?, hx]

theorem sameKey_comm_float (y : Binary64) {a : Scalar} (ha : a.kind ≠ .float) :
    a.sameKey (.float y) = (Scalar.float y).sameKey a := by
  cases a with
  | float x => exact absurd rfl ha
  | _ => rfl

/-- **Two scalars are the same key when they have one representative.** -/
theorem sameKey_iff (a b : Scalar) : a.sameKey b ↔ a.representative = b.representative := by
  by_cases ha : a.kind = .float
  · cases a with
    | float x =>
      by_cases hb : b.kind = .float
      · cases b with
        | float y =>
          rw [representative_float_eq_iff, ← Binary64.same_iff]
          rfl
        | _ => cases hb
      · exact sameKey_float_iff x hb
    | _ => cases ha
  · by_cases hb : b.kind = .float
    · cases b with
      | float y => rw [sameKey_comm_float y ha, sameKey_float_iff y ha, eq_comm]
      | _ => cases hb
    · cases a with
      | stamp s =>
        cases b with
        | stamp t =>
          cases hs : s.offset.isSome <;> cases ht : t.offset.isSome <;>
            simp [sameKey, representative, Stamp.sameTime, hs, ht]
        | _ => simp_all [sameKey, toInt?, representative, kind]
      | _ => cases b <;> simp_all [sameKey, toInt?, representative, kind]

theorem sameKey_refl (a : Scalar) : a.sameKey a := (sameKey_iff a a).mpr rfl

theorem sameKey_symm {a b : Scalar} (h : a.sameKey b) : b.sameKey a :=
  (sameKey_iff b a).mpr ((sameKey_iff a b).mp h).symm

theorem sameKey_trans {a b c : Scalar} (hab : a.sameKey b) (hbc : b.sameKey c) : a.sameKey c :=
  (sameKey_iff a c).mpr (((sameKey_iff a b).mp hab).trans ((sameKey_iff b c).mp hbc))

end Scalar

namespace Fields

variable {α : Type}

open Scalar

/-- No two keys are the same. -/
def Distinct (fields : List (Scalar × α)) : Prop :=
  fields.Pairwise fun row other => ¬ row.1.sameKey other.1

theorem distinct_iff_keys (fields : List (Scalar × α)) :
    Distinct fields ↔ (fields.map Prod.fst).Pairwise fun key other => ¬ key.sameKey other := by
  rw [List.pairwise_map]
  rfl

/-! ### One put -/

/-- What is read at a key after a put. -/
theorem get?_put_eq_ite (key name : Scalar) (value : α) : ∀ fields : List (Scalar × α),
    get? name (put key value fields) = if key.sameKey name then some value else get? name fields
  | [] => rfl
  | (k, v) :: rest => by
    have ih := get?_put_eq_ite key name value rest
    by_cases hk : k.sameKey key
    · have hiff : k.sameKey name ↔ key.sameKey name :=
        ⟨sameKey_trans (sameKey_symm hk), sameKey_trans hk⟩
      by_cases hname : key.sameKey name <;> simp [put, get?, hk, hiff, hname]
    · by_cases hname : k.sameKey name
      · have hne : ¬ key.sameKey name := fun h => hk (sameKey_trans hname (sameKey_symm h))
        simp [put, get?, hk, hname, hne]
      · simp [put, get?, hk, hname, ih]

/-- The second put at a key counts, and the first one's spelling. -/
theorem put_put_of_sameKey {k key : Scalar} (h : k.sameKey key) (a b : α) :
    ∀ fields : List (Scalar × α), put key b (put k a fields) = put k b fields
  | [] => by simp [put, h]
  | (k', v) :: rest => by
    have ih := put_put_of_sameKey h a b rest
    by_cases hk : k'.sameKey k
    · simp [put, hk, sameKey_trans hk h]
    · have hne : ¬ k'.sameKey key := fun hk' => hk (sameKey_trans hk' (sameKey_symm h))
      simp [put, hk, hne, ih]

/-- Puts at two keys can be exchanged when the one that comes first is there
already: neither then moves the other. -/
theorem put_comm_of_isSome {k key : Scalar} (h : ¬ k.sameKey key) (a b : α) :
    ∀ fields : List (Scalar × α), (get? k fields).isSome →
      put key b (put k a fields) = put k a (put key b fields)
  | [], hsome => by cases hsome
  | (k', v) :: rest, hsome => by
    by_cases hk : k'.sameKey k
    · have hne : ¬ k'.sameKey key := fun hk' => h (sameKey_trans (sameKey_symm hk) hk')
      simp [put, hk, hne]
    · have hrest : (get? k rest).isSome := by simpa [get?, hk] using hsome
      have ih := put_comm_of_isSome h a b rest hrest
      by_cases hkey : k'.sameKey key <;> simp [put, hk, hkey, ih]

/-- A value that is there already is put to no effect. -/
theorem put_of_get? {key : Scalar} {value : α} : ∀ {fields : List (Scalar × α)},
    get? key fields = some value → put key value fields = fields
  | [], h => by cases h
  | (k, v) :: rest, h => by
    by_cases hk : k.sameKey key
    · have hv : v = value := by simpa [get?, hk] using h
      simp [put, hk, hv]
    · have hrest : get? key rest = some value := by simpa [get?, hk] using h
      simp [put, hk, put_of_get? hrest]

theorem mem_put {key : Scalar} {value : α} {row : Scalar × α} : ∀ {fields : List (Scalar × α)},
    row ∈ put key value fields → row.1 = key ∨ ∃ other ∈ fields, row.1 = other.1
  | [], h => Or.inl (congrArg Prod.fst (List.mem_singleton.mp h))
  | (k, v) :: rest, h => by
    rw [put] at h
    split at h
    · rcases List.mem_cons.mp h with rfl | hrest
      · exact Or.inr ⟨(k, v), List.mem_cons_self, rfl⟩
      · exact Or.inr ⟨row, List.mem_cons_of_mem _ hrest, rfl⟩
    · rcases List.mem_cons.mp h with rfl | hrest
      · exact Or.inr ⟨(k, v), List.mem_cons_self, rfl⟩
      · rcases mem_put hrest with hkey | ⟨other, hother, heq⟩
        · exact Or.inl hkey
        · exact Or.inr ⟨other, List.mem_cons_of_mem _ hother, heq⟩

theorem forall_mem_put {P : α → Prop} {key : Scalar} {value : α} (hvalue : P value) :
    ∀ {fields : List (Scalar × α)}, (∀ row ∈ fields, P row.2) →
      ∀ row ∈ put key value fields, P row.2
  | [], _ => by simpa [put] using hvalue
  | (k, v) :: rest, h => by
    obtain ⟨hfirst, hrest⟩ := List.forall_mem_cons.mp h
    rw [put]
    split
    · exact List.forall_mem_cons.mpr ⟨hvalue, hrest⟩
    · exact List.forall_mem_cons.mpr ⟨hfirst, forall_mem_put hvalue hrest⟩

theorem forall_key_put {P : Scalar → Prop} {key : Scalar} {value : α} (hkey : P key)
    {fields : List (Scalar × α)} (h : ∀ row ∈ fields, P row.1) :
    ∀ row ∈ put key value fields, P row.1 := by
  intro row hrow
  rcases mem_put hrow with heq | ⟨other, hother, heq⟩
  · rwa [heq]
  · rw [heq]
    exact h other hother

theorem distinct_put (key : Scalar) (value : α) : ∀ {fields : List (Scalar × α)},
    Distinct fields → Distinct (put key value fields)
  | [], _ => List.pairwise_singleton _ _
  | (k, v) :: rest, h => by
    obtain ⟨hfirst, hrest⟩ := List.pairwise_cons.mp h
    rw [put]
    split
    · exact List.pairwise_cons.mpr ⟨hfirst, hrest⟩
    · rename_i hk
      refine List.pairwise_cons.mpr ⟨fun row hrow => ?_, distinct_put key value hrest⟩
      rcases mem_put hrow with heq | ⟨other, hother, heq⟩
      · rwa [heq]
      · rw [heq]
        exact hfirst other hother

/-! ### Overlays -/

theorem putAll_append (u v fields : List (Scalar × α)) :
    putAll (u ++ v) fields = putAll v (putAll u fields) :=
  List.foldl_append

theorem forall_mem_putAll {P : α → Prop} : ∀ {updates fields : List (Scalar × α)},
    (∀ row ∈ updates, P row.2) → (∀ row ∈ fields, P row.2) →
      ∀ row ∈ putAll updates fields, P row.2
  | [], _, _, h => h
  | (key, value) :: updates, fields, hu, h => by
    obtain ⟨hfirst, hrest⟩ := List.forall_mem_cons.mp hu
    have hput : ∀ row ∈ put key value fields, P row.2 := forall_mem_put hfirst h
    show ∀ row ∈ putAll updates (put key value fields), P row.2
    exact forall_mem_putAll hrest hput

theorem forall_key_putAll {P : Scalar → Prop} : ∀ {updates fields : List (Scalar × α)},
    (∀ row ∈ updates, P row.1) → (∀ row ∈ fields, P row.1) →
      ∀ row ∈ putAll updates fields, P row.1
  | [], _, _, h => h
  | (key, value) :: updates, fields, hu, h => by
    obtain ⟨hfirst, hrest⟩ := List.forall_mem_cons.mp hu
    have hput : ∀ row ∈ put key value fields, P row.1 := forall_key_put hfirst h
    show ∀ row ∈ putAll updates (put key value fields), P row.1
    exact forall_key_putAll hrest hput

theorem distinct_putAll : ∀ (updates : List (Scalar × α)) {fields : List (Scalar × α)},
    Distinct fields → Distinct (putAll updates fields)
  | [], _, h => h
  | (key, value) :: updates, _, h => distinct_putAll updates (distinct_put key value h)

theorem distinct_ofPairs (pairs : List (Scalar × α)) : Distinct (ofPairs pairs) :=
  distinct_putAll pairs List.Pairwise.nil

theorem put_of_absent {key : Scalar} {value : α} : ∀ {fields : List (Scalar × α)},
    (∀ row ∈ fields, ¬ row.1.sameKey key) → put key value fields = fields ++ [(key, value)]
  | [], _ => rfl
  | (k, v) :: rest, h => by
    obtain ⟨hk, hrest⟩ := List.forall_mem_cons.mp h
    rw [put, if_neg hk, put_of_absent hrest, List.cons_append]

/-- New keys are added at the end, in order. -/
theorem putAll_of_distinct_append : ∀ {updates fields : List (Scalar × α)},
    Distinct (fields ++ updates) → putAll updates fields = fields ++ updates
  | [], fields, _ => (List.append_nil fields).symm
  | (key, value) :: updates, fields, h => by
    have habsent : ∀ row ∈ fields, ¬ row.1.sameKey key := fun row hrow =>
      (List.pairwise_append.mp h).2.2 row hrow (key, value) List.mem_cons_self
    calc putAll ((key, value) :: updates) fields
        = putAll updates (fields ++ [(key, value)]) := by rw [← put_of_absent habsent]; rfl
      _ = fields ++ [(key, value)] ++ updates := putAll_of_distinct_append (by simpa using h)
      _ = fields ++ (key, value) :: updates := by simp

theorem putAll_of_distinct {updates : List (Scalar × α)} (h : Distinct updates) :
    putAll updates [] = updates :=
  putAll_of_distinct_append h

/-- A put can be made before updates at other keys, if its key is there. -/
theorem putAll_put_of_absent {k : Scalar} {a : α} : ∀ {updates fields : List (Scalar × α)},
    (∀ row ∈ updates, ¬ k.sameKey row.1) → (get? k fields).isSome →
      putAll updates (put k a fields) = put k a (putAll updates fields)
  | [], _, _, _ => rfl
  | (key, value) :: updates, fields, habsent, hsome => by
    obtain ⟨hkey, hrest⟩ := List.forall_mem_cons.mp habsent
    have hsome' : (get? k (put key value fields)).isSome := by
      rw [get?_put_eq_ite]
      split
      · rfl
      · exact hsome
    calc putAll ((key, value) :: updates) (put k a fields)
        = putAll updates (put key value (put k a fields)) := rfl
      _ = putAll updates (put k a (put key value fields)) := by
          rw [put_comm_of_isSome hkey a value fields hsome]
      _ = put k a (putAll updates (put key value fields)) := putAll_put_of_absent hrest hsome'

/-- **A put into updates can be made after them.** -/
theorem putAll_put (key : Scalar) (value : α) : ∀ {updates : List (Scalar × α)}, Distinct updates →
    ∀ fields, putAll (put key value updates) fields = put key value (putAll updates fields)
  | [], _, _ => rfl
  | (k, a) :: updates, h, fields => by
    obtain ⟨hfirst, hrest⟩ := List.pairwise_cons.mp h
    by_cases hk : k.sameKey key
    · -- no later update is at this key, so the put moves to the front of them
      have hsome : (get? key (put k a fields)).isSome := by simp [get?_put_eq_ite, hk]
      have habsent : ∀ row ∈ updates, ¬ key.sameKey row.1 :=
        fun row hrow hsame => hfirst row hrow (sameKey_trans hk hsame)
      calc putAll (put key value ((k, a) :: updates)) fields
          = putAll updates (put k value fields) := by rw [put, if_pos hk]; rfl
        _ = putAll updates (put key value (put k a fields)) := by rw [put_put_of_sameKey hk]
        _ = put key value (putAll updates (put k a fields)) := putAll_put_of_absent habsent hsome
    · calc putAll (put key value ((k, a) :: updates)) fields
          = putAll (put key value updates) (put k a fields) := by rw [put, if_neg hk]; rfl
        _ = put key value (putAll updates (put k a fields)) := putAll_put key value hrest _

/-- **Two overlays are one**, with the second laid over the first. -/
theorem putAll_putAll : ∀ (v : List (Scalar × α)) {u : List (Scalar × α)}, Distinct u →
    ∀ fields, putAll (putAll v u) fields = putAll v (putAll u fields)
  | [], _, _, _ => rfl
  | (key, value) :: v, u, h, fields => by
    have ih := putAll_putAll v (distinct_put key value h) fields
    calc putAll (putAll v (put key value u)) fields
        = putAll v (putAll (put key value u) fields) := ih
      _ = putAll v (put key value (putAll u fields)) := by rw [putAll_put key value h]

/-- **Updates can be gathered first**, each key at its first place and with its
last value. -/
theorem putAll_ofPairs (updates fields : List (Scalar × α)) :
    putAll (ofPairs updates) fields = putAll updates fields :=
  putAll_putAll updates List.Pairwise.nil fields

theorem putAll_cons (key : Scalar) (value : α) (updates fields : List (Scalar × α)) :
    putAll ((key, value) :: updates) fields = putAll updates (put key value fields) := rfl

theorem ofPairs_cons (key : Scalar) (value : α) (updates : List (Scalar × α)) :
    ofPairs ((key, value) :: updates) = putAll updates [(key, value)] := rfl

/-- **What is read after updates is the update, else what was there.** -/
theorem get?_putAll (name : Scalar) : ∀ updates fields : List (Scalar × α),
    get? name (putAll updates fields) = (get? name (ofPairs updates)).or (get? name fields)
  | [], fields => by simp [putAll, ofPairs, get?]
  | (key, value) :: updates, fields => by
    have ih := get?_putAll name updates
    rw [putAll_cons, ofPairs_cons, ih, ih, get?_put_eq_ite, get?, Option.or_assoc]
    by_cases hname : key.sameKey name <;> simp [hname, get?]

theorem get?_putAll_of_absent {name : Scalar} : ∀ {updates : List (Scalar × α)},
    (∀ row ∈ updates, ¬ row.1.sameKey name) →
      ∀ fields, get? name (putAll updates fields) = get? name fields
  | [], _, _ => rfl
  | (key, value) :: updates, h, fields => by
    obtain ⟨hkey, hrest⟩ := List.forall_mem_cons.mp h
    have ih := get?_putAll_of_absent hrest (put key value fields)
    exact ih.trans (by rw [get?_put_eq_ite, if_neg hkey])

/-- After distinct updates each key has the value of its update. -/
theorem get?_putAll_of_mem {row : Scalar × α} : ∀ {updates : List (Scalar × α)}, Distinct updates →
    row ∈ updates → ∀ fields, get? row.1 (putAll updates fields) = some row.2
  | (k, a) :: updates, h, hrow, fields => by
    obtain ⟨hfirst, hrest⟩ := List.pairwise_cons.mp h
    rcases List.mem_cons.mp hrow with rfl | hmem
    · have habsent : ∀ other ∈ updates, ¬ other.1.sameKey k :=
        fun other hother hsame => hfirst other hother (sameKey_symm hsame)
      have hkept := get?_putAll_of_absent habsent (put k a fields)
      exact hkept.trans (by rw [get?_put_eq_ite, if_pos (sameKey_refl k)])
    · exact get?_putAll_of_mem hrest hmem _

/-- Updates whose values are there already are made to no effect. -/
theorem putAll_of_get? : ∀ {updates fields : List (Scalar × α)},
    (∀ row ∈ updates, get? row.1 fields = some row.2) → putAll updates fields = fields
  | [], _, _ => rfl
  | (key, value) :: updates, fields, h => by
    obtain ⟨hkey, hrest⟩ := List.forall_mem_cons.mp h
    calc putAll ((key, value) :: updates) fields
        = putAll updates (put key value fields) := rfl
      _ = putAll updates fields := by rw [put_of_get? hkey]
      _ = fields := putAll_of_get? hrest

/-- **An overlay that is made again changes nothing.** -/
theorem putAll_idem (updates fields : List (Scalar × α)) :
    putAll updates (putAll updates fields) = putAll updates fields := by
  rw [← putAll_ofPairs updates fields, ← putAll_ofPairs updates]
  exact putAll_of_get? fun row hrow => get?_putAll_of_mem (distinct_ofPairs updates) hrow fields

theorem exists_mem_of_get? {key : Scalar} {value : α} : ∀ {fields : List (Scalar × α)},
    get? key fields = some value → ∃ k, (k, value) ∈ fields
  | [], h => by cases h
  | (k, v) :: rest, h => by
    rw [get?] at h
    split at h
    · cases h
      exact ⟨k, List.mem_cons_self⟩
    · obtain ⟨k', hk'⟩ := exists_mem_of_get? h
      exact ⟨k', List.mem_cons_of_mem _ hk'⟩

theorem get?_of_mem {row : Scalar × α} : ∀ {fields : List (Scalar × α)}, Distinct fields →
    row ∈ fields → get? row.1 fields = some row.2
  | (k, a) :: rest, h, hrow => by
    obtain ⟨hfirst, hrest⟩ := List.pairwise_cons.mp h
    rcases List.mem_cons.mp hrow with rfl | hmem
    · rw [get?, if_pos (sameKey_refl k)]
    · rw [get?, if_neg (hfirst row hmem), get?_of_mem hrest hmem]

/-- Distinct fields laid over themselves. -/
theorem putAll_self {fields : List (Scalar × α)} (h : Distinct fields) :
    putAll fields fields = fields :=
  putAll_of_get? fun _ hrow => get?_of_mem h hrow

/-! ### Keys -/

theorem isNone_get?_iff {key : Scalar} : ∀ {fields : List (Scalar × α)},
    (get? key fields).isNone ↔ ∀ row ∈ fields, ¬ row.1.sameKey key
  | [] => by simp [get?]
  | (k, v) :: rest => by
    have ih := @isNone_get?_iff key rest
    by_cases hk : k.sameKey key <;> simp [get?, hk, ih]

theorem keys_put_of_isSome {key : Scalar} (value : α) : ∀ {fields : List (Scalar × α)},
    (get? key fields).isSome → (put key value fields).map Prod.fst = fields.map Prod.fst
  | [], h => by cases h
  | (k, v) :: rest, h => by
    by_cases hk : k.sameKey key
    · simp [put, hk]
    · have hrest : (get? key rest).isSome := by simpa [get?, hk] using h
      simp [put, hk, keys_put_of_isSome value hrest]

/-- Updates at keys that are there keep the keys and their order. -/
theorem keys_putAll_of_isSome : ∀ {updates fields : List (Scalar × α)},
    (∀ row ∈ updates, (get? row.1 fields).isSome) →
      (putAll updates fields).map Prod.fst = fields.map Prod.fst
  | [], _, _ => rfl
  | (key, value) :: updates, fields, h => by
    obtain ⟨hkey, hrest⟩ := List.forall_mem_cons.mp h
    have ih := keys_putAll_of_isSome fun row hrow => isSome_get?_put key value (hrest row hrow)
    exact ih.trans (keys_put_of_isSome value hkey)

/-- **Distinct updates add the keys that are not there at the end**, in their
order. -/
theorem keys_putAll : ∀ {updates fields : List (Scalar × α)}, Distinct updates →
    (putAll updates fields).map Prod.fst =
      fields.map Prod.fst ++ (updates.map Prod.fst).filter fun key => (get? key fields).isNone
  | [], fields, _ => (List.append_nil _).symm
  | (key, value) :: updates, fields, h => by
    obtain ⟨hfirst, hrest⟩ := List.pairwise_cons.mp h
    -- the first update changes nothing about which of the other keys are there
    have hothers :
        ((updates.map Prod.fst).filter fun name => (get? name (put key value fields)).isNone) =
          (updates.map Prod.fst).filter fun name => (get? name fields).isNone := by
      refine List.filter_congr fun name hname => ?_
      obtain ⟨row, hrow, rfl⟩ := List.mem_map.mp hname
      rw [get?_put_eq_ite, if_neg (hfirst row hrow)]
    have ih : (putAll updates (put key value fields)).map Prod.fst = _ := keys_putAll hrest
    rw [hothers] at ih
    show (putAll updates (put key value fields)).map Prod.fst = _
    cases hkey : get? key fields with
    | none =>
      have habsent := isNone_get?_iff.mp (by rw [hkey]; rfl : (get? key fields).isNone)
      have hput : (put key value fields).map Prod.fst = fields.map Prod.fst ++ [key] := by
        rw [put_of_absent habsent, List.map_append]
        rfl
      rw [hput] at ih
      simpa [hkey] using ih
    | some old =>
      have hput := keys_put_of_isSome value (by rw [hkey]; rfl : (get? key fields).isSome)
      rw [hput] at ih
      simpa [hkey] using ih

end Fields

end TwinQuery
