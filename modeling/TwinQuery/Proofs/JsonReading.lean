/-
# What the JSON reader gives

A document that is read from JSON consists of null, truth values, numbers,
texts, lists, and objects whose keys are texts, no two of them the same
(`Json.isJson_read`). It stays within the limits of the reader: no integer is
too long and nothing stands too deep. Its texts are what the strings are read
as, and from a file they have no halves of a pair next to each other
(`Workspace.isJson_readJson`).

Key definitions: `Doc.IsJson`, `Json.GivesStrings`.
Key theorem: `Json.isJson_read`.
-/
import TwinQuery.Proofs.Extraction
import TwinQuery.Proofs.JsonStrings
import TwinQuery.Proofs.Overlay
import TwinQuery.Proofs.Resolution
import TwinQuery.Proofs.SessionRuns
import TwinQuery.Workspace.Document

namespace TwinQuery

/-- A document with a JSON notation that can be read; `texts` is what holds of its
texts, and `depth` is how many lists and objects may stand inside each other. -/
inductive Doc.IsJson (texts : Text → Prop) : (depth : Nat) → Doc → Prop where
  | null {depth : Nat} : IsJson texts depth (.atom .null)
  | bool {depth : Nat} (b : Bool) : IsJson texts depth (.atom (.bool b))
  | int {depth : Nat} {i : Int} (h : i.natAbs < Nat.pow 10 Json.longestInteger) :
      IsJson texts depth (.atom (.int i))
  | float {depth : Nat} (x : Binary64) : IsJson texts depth (.atom (.float x))
  | text {depth : Nat} {t : Text} (h : texts t) : IsJson texts depth (.atom (.text t))
  | list {depth : Nat} {items : List Doc} (items_isJson : ∀ item ∈ items, IsJson texts depth item) :
      IsJson texts (depth + 1) (.list items)
  | object {depth : Nat} {fields : List (Scalar × Doc)}
      (keys : ∀ field ∈ fields, ∃ name, field.1 = .text name ∧ texts name)
      (distinct : Fields.Distinct fields)
      (values_isJson : ∀ field ∈ fields, IsJson texts depth field.2) :
      IsJson texts (depth + 1) (.object fields)

/-- The keys of an object are texts. -/
theorem Doc.IsJson.allText {texts : Text → Prop} {depth : Nat} {fields : List (Scalar × Doc)}
    (h : Doc.IsJson texts depth (.object fields)) : Fields.AllText fields := by
  cases h with
  | object keys _ _ =>
    intro field hfield
    obtain ⟨name, hname, -⟩ := keys field hfield
    exact ⟨name, hname⟩

namespace Json

variable {texts : Text → Prop}

/-- Words stand for null, truth values and numbers. -/
theorem isJson_of_readWord {t rest : Text} {s : Scalar} (h : readWord t = some (s, rest))
    (depth : Nat) : Doc.IsJson texts depth (.atom s) := by
  obtain ⟨⟨word, value⟩, hmem, hword⟩ := List.exists_of_findSome?_eq_some h
  obtain ⟨after, -, heq⟩ := Option.map_eq_some_iff.mp hword
  have hvalue : value = s := congrArg Prod.fst heq
  subst hvalue
  simp only [wordValues, List.mem_cons, Prod.mk.injEq, List.not_mem_nil, or_false] at hmem
  rcases hmem with ⟨-, rfl⟩ | ⟨-, rfl⟩ | ⟨-, rfl⟩ | ⟨-, rfl⟩ | ⟨-, rfl⟩ | ⟨-, rfl⟩
  · exact .null
  · exact .bool true
  · exact .bool false
  · exact .float _
  · exact .float _
  · exact .float _

theorem int_or_float_of_readNumber {t rest : Text} {s : Scalar} (h : readNumber t = some (s, rest)) :
    (∃ i, s = .int i) ∨ ∃ x, s = .float x := by
  unfold readNumber at h
  split at h
  · cases h
  · cases h
    unfold numberOf
    split
    · exact Or.inl ⟨_, rfl⟩
    · exact Or.inr ⟨_, rfl⟩

/-- What is neither a string nor a list nor an object is a word, an integer or
another number. -/
theorem isJson_of_scalar {t rest : Text} {s : Scalar}
    (h : ((readWord t).orElse fun _ => readNumber t) = some (s, rest)) (hint : ∀ i, s ≠ .int i)
    (depth : Nat) : Doc.IsJson texts depth (.atom s) := by
  cases hword : readWord t with
  | some found =>
    rw [hword] at h
    cases h
    exact isJson_of_readWord hword depth
  | none =>
    rw [hword] at h
    rcases int_or_float_of_readNumber h with ⟨i, rfl⟩ | ⟨x, rfl⟩
    · exact absurd rfl (hint i)
    · exact .float x

/-! ### What is left of the text -/

theorem suffix_skipSpace (t : Text) : skipSpace t <:+ t := List.dropWhile_suffix _

/-- What is left after white space and a mark. -/
theorem suffix_of_skipSpace {t rest : Text} {c : CodePoint} (h : skipSpace t = c :: rest) :
    rest <:+ t :=
  (List.suffix_cons c rest).trans (h ▸ suffix_skipSpace t)

theorem suffix_readWord {t rest : Text} {s : Scalar} (h : readWord t = some (s, rest)) :
    rest <:+ t := by
  obtain ⟨⟨word, value⟩, -, hword⟩ := List.exists_of_findSome?_eq_some h
  obtain ⟨after, hafter, heq⟩ := Option.map_eq_some_iff.mp hword
  cases heq
  exact ⟨word, (Text.dropStart?_eq_some_iff.mp hafter).symm⟩

theorem suffix_signPart (t : Text) : (signPart t).2 <:+ t := by
  unfold signPart
  split
  · exact List.suffix_cons _ _
  · exact List.suffix_rfl

theorem suffix_wholePart (t : Text) : (wholePart t).2 <:+ t := by
  unfold wholePart
  split
  · exact List.suffix_cons _ _
  · exact List.dropWhile_suffix _

theorem suffix_fractionPart {t digits rest : Text} (h : fractionPart t = some (digits, rest)) :
    rest <:+ t := by
  unfold fractionPart at h
  split at h
  · rename_i after
    split at h
    · cases h
    · cases h
      exact (List.dropWhile_suffix _).trans (List.suffix_cons _ after)
  · cases h

theorem suffix_exponentPart {t rest : Text} {e : Int} (h : exponentPart t = some (e, rest)) :
    rest <:+ t := by
  unfold exponentPart at h
  split at h
  · rename_i c after
    split at h
    · have hsign : ∀ u : Text, u <:+ after → (digitRun u).2 <:+ c :: after := fun u hu =>
        ((List.dropWhile_suffix _).trans hu).trans (List.suffix_cons c after)
      simp only at h
      split at h
      · cases h
      · rename_i digits next _ hrun
        cases h
        have hrest : rest = (digitRun _).2 := (congrArg Prod.snd hrun).symm
        rw [hrest]
        split
        · exact hsign _ (List.suffix_cons _ _)
        · exact hsign _ (List.suffix_cons _ _)
        · exact hsign _ List.suffix_rfl
    · cases h
  · cases h

/-- What is left after a part that may be missing. -/
theorem suffix_optional {α : Type} {part : Option (α × Text)} {t : Text}
    (h : ∀ {a rest}, part = some (a, rest) → rest <:+ t) :
    ((part.map (Prod.map some id)).getD (none, t)).2 <:+ t := by
  cases part with
  | none => exact List.suffix_rfl
  | some found => exact h rfl

theorem suffix_readNumber {t rest : Text} {s : Scalar} (h : readNumber t = some (s, rest)) :
    rest <:+ t := by
  unfold readNumber at h
  split at h
  · cases h
  · rename_i digits after _ hwhole
    have hafter := (suffix_wholePart (signPart t).2).trans (suffix_signPart t)
    rw [hwhole] at hafter
    cases h
    exact (suffix_optional suffix_exponentPart).trans
      ((suffix_optional suffix_fractionPart).trans hafter)

theorem suffix_of_scalar {t rest : Text} {s : Scalar}
    (h : ((readWord t).orElse fun _ => readNumber t) = some (s, rest)) : rest <:+ t := by
  cases hword : readWord t with
  | some found =>
    rw [hword] at h
    cases h
    exact suffix_readWord hword
  | none =>
    rw [hword] at h
    exact suffix_readNumber h

/-! ### What is read -/

/-- The strings that can be read in a text are texts of the given kind. -/
def GivesStrings (texts : Text → Prop) (t : Text) : Prop :=
  ∀ {u s rest : Text}, u <:+ t → readString u = .ok (s, rest) → texts s

theorem GivesStrings.of_suffix {t u : Text} (h : GivesStrings texts t) (hu : u <:+ t) :
    GivesStrings texts u :=
  fun hv => h (hv.trans hu)

/-- What the reader gives with some fuel, and what is left of the text then: a
value, the items of a list after those already read, the fields of an object
after those already read. -/
structure GivesJson (texts : Text → Prop) (fuel : Nat) : Prop where
  value : ∀ {depth t d rest}, readValue fuel depth t = .ok (d, rest) → GivesStrings texts t →
    Doc.IsJson texts depth d ∧ rest <:+ t
  items : ∀ {depth acc t items rest}, readItems fuel depth acc t = .ok (items, rest) →
    GivesStrings texts t → Doc.IsJson texts (depth + 1) (.list acc) →
      Doc.IsJson texts (depth + 1) (.list items) ∧ rest <:+ t
  fields : ∀ {depth acc t fields rest}, readFields fuel depth acc t = .ok (fields, rest) →
    GivesStrings texts t → Doc.IsJson texts (depth + 1) (.object acc) →
      Doc.IsJson texts (depth + 1) (.object fields) ∧ rest <:+ t

theorem isJson_nil (texts : Text → Prop) (depth : Nat) :
    Doc.IsJson texts (depth + 1) (.list []) ∧ Doc.IsJson texts (depth + 1) (.object []) :=
  ⟨.list (by simp), .object (by simp) .nil (by simp)⟩

theorem isJson_of_readValue {fuel depth : Nat} {t rest : Text} {d : Doc}
    (ih : GivesJson texts fuel) (h : readValue (fuel + 1) depth t = .ok (d, rest))
    (ht : GivesStrings texts t) : Doc.IsJson texts depth d ∧ rest <:+ t := by
  rw [readValue.eq_def] at h
  simp only at h
  split at h
  · cases h
  rename_i c after
  have hinner : skipSpace after <:+ c :: after :=
    (suffix_skipSpace after).trans (List.suffix_cons c after)
  split at h
  · obtain ⟨⟨s, next⟩, hs, h⟩ := exists_of_bind_eq_ok h
    cases h
    exact ⟨.text (ht List.suffix_rfl hs), suffix_readString hs⟩
  split at h
  · split at h
    · cases h
    · split at h
      · cases h
        exact ⟨(isJson_nil texts _).2,
          (suffix_of_skipSpace ‹_›).trans (List.suffix_cons c after)⟩
      · obtain ⟨⟨fields, next⟩, hfields, h⟩ := exists_of_bind_eq_ok h
        cases h
        obtain ⟨hjson, hrest⟩ := ih.fields hfields (ht.of_suffix hinner) (isJson_nil texts _).2
        exact ⟨hjson, hrest.trans hinner⟩
  split at h
  · split at h
    · cases h
    · split at h
      · cases h
        exact ⟨(isJson_nil texts _).1,
          (suffix_of_skipSpace ‹_›).trans (List.suffix_cons c after)⟩
      · obtain ⟨⟨items, next⟩, hitems, h⟩ := exists_of_bind_eq_ok h
        cases h
        obtain ⟨hjson, hrest⟩ := ih.items hitems (ht.of_suffix hinner) (isJson_nil texts _).1
        exact ⟨hjson, hrest.trans hinner⟩
  split at h
  · rename_i hscalar
    split at h
    · cases h
      exact ⟨.int ‹_›, suffix_of_scalar hscalar⟩
    · cases h
  · rename_i hint hscalar
    cases h
    exact ⟨isJson_of_scalar hscalar hint depth, suffix_of_scalar hscalar⟩
  · cases h

theorem isJson_of_readItems {fuel depth : Nat} {t rest : Text} {acc items : List Doc}
    (ih : GivesJson texts fuel) (h : readItems (fuel + 1) depth acc t = .ok (items, rest))
    (ht : GivesStrings texts t) (hacc : Doc.IsJson texts (depth + 1) (.list acc)) :
    Doc.IsJson texts (depth + 1) (.list items) ∧ rest <:+ t := by
  rw [readItems] at h
  obtain ⟨⟨item, after⟩, hitem, h⟩ := exists_of_bind_eq_ok h
  obtain ⟨hjson, hafter⟩ := ih.value hitem ht
  have hitems : ∀ other ∈ item :: acc, Doc.IsJson texts depth other := by
    cases hacc with
    | list hall => exact List.forall_mem_cons.mpr ⟨hjson, hall⟩
  simp only at h
  split at h
  · cases h
    exact ⟨.list fun other hother => hitems other (List.mem_reverse.mp hother),
      (suffix_of_skipSpace ‹_›).trans hafter⟩
  · rename_i next hnext
    have hmore : skipSpace next <:+ t :=
      (suffix_skipSpace next).trans ((suffix_of_skipSpace hnext).trans hafter)
    obtain ⟨hall, hrest⟩ := ih.items h (ht.of_suffix hmore) (.list hitems)
    exact ⟨hall, hrest.trans hmore⟩
  · cases h

theorem isJson_of_readFields {fuel depth : Nat} {t rest : Text} {acc fields : List (Scalar × Doc)}
    (ih : GivesJson texts fuel) (h : readFields (fuel + 1) depth acc t = .ok (fields, rest))
    (ht : GivesStrings texts t) (hacc : Doc.IsJson texts (depth + 1) (.object acc)) :
    Doc.IsJson texts (depth + 1) (.object fields) ∧ rest <:+ t := by
  rw [readFields.eq_def] at h
  simp only at h
  split at h
  · obtain ⟨⟨name, after⟩, hname, h⟩ := exists_of_bind_eq_ok h
    have hafter := suffix_readString hname
    simp only at h
    split at h
    · rename_i colon hcolon
      have hvalue : skipSpace colon <:+ _ :=
        (suffix_skipSpace colon).trans ((suffix_of_skipSpace hcolon).trans hafter)
      obtain ⟨⟨value, next⟩, hread, h⟩ := exists_of_bind_eq_ok h
      obtain ⟨hjson, hnext⟩ := ih.value hread (ht.of_suffix hvalue)
      have hput : Doc.IsJson texts (depth + 1) (.object (Fields.put (.text name) value acc)) := by
        cases hacc with
        | object keys distinct values =>
          exact .object (Fields.forall_key_put (P := fun key => ∃ t, key = .text t ∧ texts t)
            ⟨name, rfl, ht List.suffix_rfl hname⟩ keys) (Fields.distinct_put _ _ distinct)
            (Fields.forall_mem_put hjson values)
      simp only at h
      split at h
      · cases h
        exact ⟨hput, (suffix_of_skipSpace ‹_›).trans (hnext.trans hvalue)⟩
      · rename_i more hmore
        have hfields : skipSpace more <:+ _ :=
          (suffix_skipSpace more).trans ((suffix_of_skipSpace hmore).trans (hnext.trans hvalue))
        obtain ⟨hall, hrest⟩ := ih.fields h (ht.of_suffix hfields) hput
        exact ⟨hall, hrest.trans hfields⟩
      · cases h
    · cases h
  · cases h

/-- **Whatever the fuel, the reader gives JSON.** The three parts of the reader
call each other with less fuel. -/
theorem givesJson (texts : Text → Prop) : ∀ fuel : Nat, GivesJson texts fuel
  | 0 =>
    ⟨fun h => by simp [readValue] at h, fun h => by simp [readItems] at h,
      fun h => by simp [readFields] at h⟩
  | fuel + 1 =>
    ⟨isJson_of_readValue (givesJson texts fuel), isJson_of_readItems (givesJson texts fuel),
      isJson_of_readFields (givesJson texts fuel)⟩

/-- **What is read is JSON**, with the texts that its strings are read as. -/
theorem isJson_read {t : Text} {d : Doc} (h : read t = .ok d) (ht : GivesStrings texts t) :
    Doc.IsJson texts deepestLevel d := by
  obtain ⟨⟨value, rest⟩, hvalue, h⟩ := exists_of_bind_eq_ok h
  simp only at h
  split at h
  · cases h
    exact ((givesJson texts _).value hvalue (ht.of_suffix (suffix_skipSpace t))).1
  · cases h

theorem givesStrings_of_isEncodable {t : Text} (h : t.isEncodable) :
    GivesStrings Text.Unpaired t :=
  fun hu hread => unpaired_of_readString (Text.isEncodable_of_subset h hu.subset) hread

end Json

namespace Workspace

theorem isEncodable_plainLines : ∀ {t : Text}, t.isEncodable → (plainLines t).isEncodable := by
  intro t h
  fun_induction plainLines t with
  | case1 rest ih =>
    exact ih (Text.isEncodable_of_subset h fun c hc => .tail _ (.tail _ hc))
  | case2 rest _ ih => exact ih (Text.isEncodable_of_subset h (List.subset_cons_self _ _))
  | case3 c rest _ _ ih =>
    obtain ⟨hc, hrest⟩ := Bool.and_eq_true_iff.mp h
    exact Bool.and_eq_true_iff.mpr ⟨hc, ih hrest⟩
  | case4 => rfl

/-- What is read from a file has an encoding. -/
theorem isEncodable_readText {w : Workspace} {p : Path} {t : Text} (h : w.readText p = .ok t) :
    t.isEncodable := by
  unfold readText at h
  split at h
  · cases h
  split at h
  · split at h
    · cases h
      exact isEncodable_plainLines ‹_›
    · cases h
  · cases h
  · cases h

theorem isJson_readJson {w : Workspace} {p : Path} {d : Doc} (h : w.readJson p = .ok d) :
    d.IsJson Text.Unpaired Json.deepestLevel := by
  obtain ⟨t, ht, h⟩ := exists_of_bind_eq_ok h
  cases hread : Json.read t with
  | error mistake => rw [hread] at h; cases h
  | ok found =>
    rw [hread] at h
    cases h
    exact Json.isJson_read hread (Json.givesStrings_of_isEncodable (isEncodable_readText ht))

end Workspace

end TwinQuery
