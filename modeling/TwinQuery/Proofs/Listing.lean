/-
# Listings and what is read of them

Four stages take one or more operands: `sort` lists keys, `rename` and
`project-rename` list pairs of names, and `order by` lists keys with their
directions. A listing is a row of such items with gaps of blanks and commas
between them.

The rules of these stages read one item. What they read is a matter of
blanks: a word ends at a blank, so the items that are divided by commas alone
are read as one, and the first blank in an item or after it ends what is
read. The items up to there are the lead of the listing (`leadFrom`). For each
kind of item there is one theorem that says what is read of a listing.

Key definitions: `Listing`, `leadFrom`, `SortKey`, `RenamePair`,
`ProjectRenamePair.readFrom`, `OrderKey`.
Key theorems: `firstWord_of_mem_leadFrom`, `sortKey?_listing`,
`renamePair?_listing`, `projectRenameIn_listing`, `isInfix_readFrom`,
`orderKey?_listing`.
-/
import TwinQuery.Proofs.SharedStage

namespace TwinQuery

open Text

/-! ### Listings -/

/-- Any number of blanks. -/
abbrev Blanks := { t : Text // t.all isBlank }

/-- One or more blanks. -/
def Text.IsSpace (t : Text) : Prop := t ≠ [] ∧ ∀ c ∈ t, isBlank c

instance (t : Text) : Decidable t.IsSpace :=
  @instDecidableAnd _ _ inferInstance (List.decidableBAll _ t)

/-- One or more blanks. -/
abbrev Space := { t : Text // t.IsSpace }

theorem opensBlank_space (space : Space) (t : Text) : OpensBlank (space.val ++ t) := by
  obtain ⟨b, hne, hb⟩ := space
  obtain ⟨c, b, rfl⟩ := List.exists_cons_of_ne_nil hne
  exact opensBlank_cons (hb c List.mem_cons_self) (b ++ t)

/-- A word ends at the blanks after it. -/
theorem words_append_space {a : Text} (hne : a ≠ []) (ha : ∀ c ∈ a, isInk c) (space : Space)
    (t : Text) : words (a ++ (space.val ++ t)) = a :: words t := by
  have hfirst : firstWord (space.val ++ t) = [] :=
    firstWord_append_blank (opensBlank_space space t) []
  have hafter : afterWord (space.val ++ t) = space.val ++ t := by
    have hcut := firstWord_append_afterWord (space.val ++ t)
    rwa [hfirst] at hcut
  rw [words_append_ink hne ha, hfirst, hafter, List.append_nil, words_blank_append space.2.2]

/-- The name of a field in a listing: without commas and equals signs, and
not beginning with a sign. -/
def Text.IsFieldName (t : Text) : Prop :=
  t.IsName ∧ (∀ c ∈ t, c ≠ ',' ∧ c ≠ '=') ∧ t.head? ≠ some (.char '+') ∧ t.head? ≠ some (.char '-')

instance (t : Text) : Decidable t.IsFieldName :=
  @instDecidableAnd _ _ inferInstance
    (@instDecidableAnd _ _ (List.decidableBAll _ t) inferInstance)

/-- The name of a field in a listing. -/
abbrev FieldName := { t : Text // t.IsFieldName }

/-- What stands between two items: blanks and commas, at least one of them. -/
def Text.IsGap (t : Text) : Prop := t ≠ [] ∧ ∀ c ∈ t, isBlank c ∨ c = ','

instance (t : Text) : Decidable t.IsGap :=
  @instDecidableAnd _ _ inferInstance (List.decidableBAll _ t)

/-- What stands between two items. -/
abbrev Gap := { t : Text // t.IsGap }

/-- A comma and a blank. -/
def commaSpace : Gap := ⟨", ", by decide⟩

theorem any_commaSpace : commaSpace.val.any isBlank = true := rfl

/-- One or more items, each after the first with the gap before it. -/
structure Listing (α : Type) where
  first : α
  more : List (Gap × α)

section

variable {α : Type} (spell : α → Text)

/-- The text of the items after the first, with their gaps. -/
def tailText (more : List (Gap × α)) : Text := more.flatMap fun item => item.1.val ++ spell item.2

/-- The items from the first up to the first one that has a blank in it or
right after it. -/
def leadFrom (item : α) : List (Gap × α) → List α
  | [] => [item]
  | (gap, next) :: more =>
    if (spell item ++ gap.val).any isBlank then [item] else item :: leadFrom next more

namespace Listing

/-- The text of a listing. -/
def text (l : Listing α) : Text := spell l.first ++ tailText spell l.more

/-- The items of a listing. -/
def items (l : Listing α) : List α := l.first :: l.more.map Prod.snd

/-- The items of a listing that are read. -/
def lead (l : Listing α) : List α := leadFrom spell l.first l.more

/-- A listing with one more item, after a comma and a blank. -/
def snoc (l : Listing α) (item : α) : Listing α := ⟨l.first, l.more ++ [(commaSpace, item)]⟩

end Listing

variable {spell}

theorem tailText_cons (gap : Gap) (next : α) (more : List (Gap × α)) :
    tailText spell ((gap, next) :: more) = gap.val ++ (spell next ++ tailText spell more) := by
  rw [tailText, List.flatMap_cons, List.append_assoc]
  rfl

/-- What follows a comma and a blank does not belong to the word before. -/
theorem firstWord_tailText_snoc (more : List (Gap × α)) (item : α) :
    firstWord (tailText spell (more ++ [(commaSpace, item)])) =
      firstWord (tailText spell more ++ commaSpace.val) := by
  have htail : tailText spell (more ++ [(commaSpace, item)]) =
      (tailText spell more ++ commaSpace.val) ++ spell item := by
    simp [tailText]
  have hany : (tailText spell more ++ commaSpace.val).any isBlank := by
    rw [List.any_append, any_commaSpace, Bool.or_true]
  rw [htail, (firstWord_append_of_any hany _).1]

theorem ink_of_not_any {t : Text} (h : ¬ t.any isBlank) : ∀ c ∈ t, isInk c :=
  fun c hc => (isInk_iff c).mpr (by
    cases hb : isBlank c with
    | false => rfl
    | true => exact absurd (List.any_eq_true.mpr ⟨c, hc, hb⟩) h)

theorem not_any_of_ink {t : Text} (h : ∀ c ∈ t, isInk c) : ¬ t.any isBlank := by
  intro hany
  obtain ⟨c, hc, hblank⟩ := List.any_eq_true.mp hany
  rw [(isInk_iff c).mp (h c hc)] at hblank
  cases hblank

theorem leadFrom_isPrefix (item : α) :
    ∀ more : List (Gap × α), leadFrom spell item more <+: item :: more.map Prod.snd
  | [] => List.prefix_refl _
  | (gap, next) :: more => by
    rw [leadFrom]
    split
    · exact List.prefix_append [item] _
    · exact List.cons_prefix_cons.mpr ⟨rfl, leadFrom_isPrefix next more⟩

/-- **The items of the lead stand in the first word of the listing,** each as
far as its own first blank. -/
theorem firstWord_of_mem_leadFrom {x : α} : ∀ {item : α} {more : List (Gap × α)},
    x ∈ leadFrom spell item more →
      firstWord (spell x) <:+: firstWord (spell item ++ tailText spell more)
  | item, [], h => by
    rw [leadFrom, List.mem_singleton] at h
    rw [h]
    exact (firstWord_isPrefix _ _).isInfix
  | item, (gap, next) :: more, h => by
    have hfirst : firstWord (spell item) <:+:
        firstWord (spell item ++ tailText spell ((gap, next) :: more)) :=
      (firstWord_isPrefix _ _).isInfix
    rw [leadFrom] at h
    split at h
    · rw [List.mem_singleton.mp h]
      exact hfirst
    · rename_i hink
      rcases List.mem_cons.mp h with rfl | h
      · exact hfirst
      · rw [tailText_cons, ← List.append_assoc, firstWord_append_ink (ink_of_not_any hink)]
        exact (firstWord_of_mem_leadFrom h).trans (List.suffix_append _ _).isInfix

end

/-! ### Sort keys -/

/-- A key of `sort`: a field with a sign or without. -/
structure SortKey where
  sign : Option Direction
  field : FieldName

namespace SortKey

/-- The text of a key. -/
def spell (key : SortKey) : Text :=
  match key.sign with
  | some direction => SharedStage.sign direction :: key.field.val
  | none => key.field.val

/-- The direction of a key. -/
def direction (key : SortKey) : Direction := key.sign.getD .ascending

theorem ink_spell (key : SortKey) : ∀ c ∈ key.spell, isInk c := by
  unfold spell
  split
  · exact (SharedStage.isName_sign _ key.field.2.1).ink
  · exact key.field.2.1.ink

theorem field_isSuffix (key : SortKey) : key.field.val <:+ key.spell := by
  unfold spell
  split
  · exact List.suffix_cons _ _
  · exact List.suffix_refl _

/-- A field is not begun by a sign, so it stands after the sign of a key. -/
theorem isInfix_field (key : SortKey) {field : FieldName} {t : Text}
    (h : field.val <:+: key.spell ++ t) : field.val <:+: key.field.val ++ t := by
  obtain ⟨hname, -, hplus, hminus⟩ := field.2
  unfold spell at h
  split at h
  · rename_i direction _
    rcases List.infix_cons_iff.mp h with hstart | h
    · obtain ⟨c, rest, heq⟩ := List.exists_cons_of_ne_nil hname.1
      rw [heq] at hstart hplus hminus
      have hsign : c = SharedStage.sign direction := (List.cons_prefix_cons.mp hstart).1
      subst hsign
      cases direction with
      | ascending => exact absurd rfl hplus
      | descending => exact absurd rfl hminus
    · exact h
  · exact h

end SortKey

/-- A word that does not begin with a sign is a field in ascending order. -/
theorem sortKey?_of_unsigned {c : CodePoint} (hink : isInk c) (hplus : c ≠ '+') (hminus : c ≠ '-')
    (t : Text) : sortKey? (c :: t) = some (c :: firstWord t, .ascending) := by
  cases hword : firstWord t with
  | nil =>
    have htake : t.takeWhile isInk = [] := hword
    simp only [sortKey?, htake, hink, if_true]
  | cons d word =>
    have htake : t.takeWhile isInk = d :: word := hword
    simp only [sortKey?, htake, hplus, hminus, hink, if_true, if_false]

/-- The arguments of `sort` are read as the first key, with what follows it
in the same word. -/
theorem sortKey?_listing (key : SortKey) (rest : Text) :
    sortKey? (key.spell ++ rest) = some (key.field.val ++ firstWord rest, key.direction) := by
  obtain ⟨sign, field, hname, -, hplus, hminus⟩ := key
  cases sign with
  | some direction =>
    have hword := firstWord_append_ink hname.ink rest
    have hkey := sortKey?_of_sign direction (t := field ++ rest) (by simp [hword, hname.1])
    rwa [hword] at hkey
  | none =>
    obtain ⟨c, field, rfl⟩ := List.exists_cons_of_ne_nil hname.1
    obtain ⟨hc, hfield⟩ := List.forall_mem_cons.mp hname.ink
    have hkey := sortKey?_of_unsigned hc (fun h => hplus (congrArg some h))
      (fun h => hminus (congrArg some h)) (field ++ rest)
    rwa [firstWord_append_ink hfield] at hkey

/-! ### Pairs of names -/

/-- A pair of `rename`: the old name, the keyword `as` in any case, and the
new name. -/
structure RenamePair where
  old : FieldName
  before : Space
  keyword : { t : Text // t.IsName ∧ isKeyword "as" t }
  after : Space
  new : FieldName

namespace RenamePair

/-- The text of a pair. -/
def spell (pair : RenamePair) : Text :=
  pair.old.val ++ (pair.before.val ++ (pair.keyword.val ++ (pair.after.val ++ pair.new.val)))

theorem any_spell (pair : RenamePair) : pair.spell.any isBlank := by
  obtain ⟨hne, hb⟩ := pair.before.2
  obtain ⟨c, b, heq⟩ := List.exists_cons_of_ne_nil hne
  have hc : c ∈ pair.before.val := heq ▸ List.mem_cons_self
  exact List.any_eq_true.mpr ⟨c, by simp [spell, hc], hb c hc⟩

/-- The lead of pairs is the first one, since it holds blanks. -/
theorem eq_of_mem_lead {pair : RenamePair} {pairs : Listing RenamePair}
    (h : pair ∈ pairs.lead spell) : pair = pairs.first := by
  obtain ⟨first, more⟩ := pairs
  cases more with
  | nil => exact List.mem_singleton.mp h
  | cons item more =>
    have hany : (first.spell ++ item.1.val).any isBlank := by
      rw [List.any_append, first.any_spell, Bool.true_or]
    rw [Listing.lead, leadFrom, if_pos hany] at h
    exact List.mem_singleton.mp h

end RenamePair

/-- The arguments of `rename` are read as the first pair, with what follows
it in the same word. -/
theorem renamePair?_listing (pair : RenamePair) (rest : Text) :
    renamePair? (pair.spell ++ rest) = some (pair.old.val, pair.new.val ++ firstWord rest) := by
  have hwords : words (pair.spell ++ rest) =
      pair.old.val :: pair.keyword.val :: (pair.new.val ++ firstWord rest) ::
        words (afterWord rest) := by
    simp only [RenamePair.spell, List.append_assoc]
    rw [words_append_space pair.old.2.1.1 pair.old.2.1.ink,
      words_append_space pair.keyword.2.1.1 pair.keyword.2.1.ink,
      words_append_ink pair.new.2.1.1 pair.new.2.1.ink]
  simp only [renamePair?, hwords, renamePairIn, pair.keyword.2.2, if_true]

/-- A pair of `project-rename`: the new name, an equals sign with or without
blanks around it, and the old name. -/
structure ProjectRenamePair where
  new : FieldName
  before : Blanks
  after : Blanks
  old : FieldName

namespace ProjectRenamePair

/-- The text of a pair. -/
def spell (pair : ProjectRenamePair) : Text :=
  pair.new.val ++ (pair.before.val ++ .char '=' :: (pair.after.val ++ pair.old.val))

/-- The two names that a pair is read as, with the text before it in the same
word and the pairs after it. A pair without blanks in it or after it belongs
to the new name of the next one. -/
def readFrom (lead : Text) (pair : ProjectRenamePair) :
    List (Gap × ProjectRenamePair) → Text × Text
  | [] => (lead ++ pair.new.val, pair.old.val)
  | (gap, next) :: more =>
    if (pair.spell ++ gap.val).any isBlank then
      (lead ++ pair.new.val, pair.old.val ++ firstWord (tailText spell ((gap, next) :: more)))
    else readFrom (lead ++ (pair.spell ++ gap.val)) next more

theorem spell_of_nil {pair : ProjectRenamePair}
    (h : pair.before.val = [] ∧ pair.after.val = []) :
    pair.spell = pair.new.val ++ .char '=' :: pair.old.val := by
  rw [spell, h.1, h.2, List.nil_append, List.nil_append]

theorem ink_spell {pair : ProjectRenamePair}
    (h : pair.before.val = [] ∧ pair.after.val = []) : ∀ c ∈ pair.spell, isInk c := by
  intro c hc
  rw [spell_of_nil h, List.mem_append, List.mem_cons] at hc
  rcases hc with hc | rfl | hc
  · exact pair.new.2.1.ink c hc
  · rfl
  · exact pair.old.2.1.ink c hc

end ProjectRenamePair

theorem cutAtEquals_of_not_mem : ∀ {t : Text}, .char '=' ∉ t → cutAtEquals t = none
  | [], _ => rfl
  | c :: t, h => by
    have ht : .char '=' ∉ t := fun hmem => h (List.mem_cons_of_mem c hmem)
    unfold cutAtEquals
    rw [cutAtEquals_of_not_mem ht]
    split
    · rename_i heq
      cases heq
    · split
      · simp at ht
      · rfl

/-- The last equals sign with something on both sides divides a word. -/
theorem cutAtEquals_append {after : Text} (hne : after ≠ []) (hafter : .char '=' ∉ after)
    (c : CodePoint)
    (before : Text) :
    cutAtEquals (c :: (before ++ .char '=' :: after)) = some (c :: before, after) := by
  induction before generalizing c with
  | nil =>
    obtain ⟨d, after, rfl⟩ := List.exists_cons_of_ne_nil hne
    have hd : d ≠ '=' := fun h => hafter (h ▸ List.mem_cons_self)
    have hrest : cutAtEquals ('=' :: d :: after) = none := by
      unfold cutAtEquals
      rw [cutAtEquals_of_not_mem hafter]
      split
      · rename_i heq
        cases heq
      · split
        · rename_i heq
          exact absurd (List.cons.inj heq).1 hd
        · rfl
    rw [List.nil_append, cutAtEquals, hrest]
  | cons d before ih =>
    unfold cutAtEquals
    rw [List.cons_append, ih]

/-- A word is read with the next one when that begins with an equals sign;
else it is read by itself, or with the next one when it ends in one. -/
theorem projectRenameAt_of_head {rest : List Text}
    (h : ∀ w ∈ rest.head?, w.head? ≠ some (.char '='))
    (word : Text) :
    projectRenameAt word rest =
      Option.or
        (match word.reverse, rest with
         | '=' :: c :: before, old :: _ => some ((c :: before).reverse, old)
         | _, _ => none)
        (cutAtEquals word) := by
  unfold projectRenameAt
  split
  · exact absurd rfl (h _ rfl)
  · exact absurd rfl (h _ rfl)
  · rfl

/-- A word that ends in an equals sign is a new name, and the next word is the
old one. -/
theorem projectRenameAt_of_end {new old : Text} (hnew : new ≠ [])
    (hold : old.head? ≠ some (.char '='))
    (rest : List Text) : projectRenameAt (new ++ [.char '=']) (old :: rest) = some (new, old) := by
  have hhead : ∀ w ∈ (old :: rest).head?, w.head? ≠ some (.char '=') := by
    rintro _ ⟨⟩
    exact hold
  rw [projectRenameAt_of_head hhead, List.reverse_append]
  obtain ⟨c, before, hreverse⟩ := List.exists_cons_of_ne_nil (List.reverse_ne_nil_iff.mpr hnew)
  have hback : (c :: before).reverse = new := by
    rw [← hreverse, List.reverse_reverse]
  simp only [List.reverse_singleton, List.singleton_append, hreverse, hback, Option.some_or]

/-- A word with an equals sign inside is divided at the last one. -/
theorem projectRenameAt_of_inside {new old : Text} {rest : List Text} (hnew : new ≠ [])
    (hold : old ≠ []) (hequals : .char '=' ∉ old)
    (hrest : ∀ w ∈ rest.head?, w.head? ≠ some (.char '=')) :
    projectRenameAt (new ++ .char '=' :: old) rest = some (new, old) := by
  rw [projectRenameAt_of_head hrest, List.reverse_append, List.reverse_cons]
  obtain ⟨z, before, hreverse⟩ := List.exists_cons_of_ne_nil (List.reverse_ne_nil_iff.mpr hold)
  have hz : z ≠ '=' := by
    rintro rfl
    exact hequals (List.mem_reverse.mp (hreverse ▸ List.mem_cons_self))
  obtain ⟨c, new, rfl⟩ := List.exists_cons_of_ne_nil hnew
  have hcut : cutAtEquals (c :: new ++ .char '=' :: old) = some (c :: new, old) :=
    cutAtEquals_append hold hequals c new
  rw [hreverse, List.cons_append, hcut]
  split
  · rename_i heq
    exact absurd (List.cons.inj heq).1 hz
  · rfl

theorem Text.IsFieldName.head_ne {name : Text} (h : name.IsFieldName) (t : Text) :
    (name ++ t).head? ≠ some (.char '=') := by
  obtain ⟨c, rest, rfl⟩ := List.exists_cons_of_ne_nil h.1.1
  exact fun heq => (h.2.1 c List.mem_cons_self).2 (Option.some.inj heq)

/-- After a gap no word begins with an equals sign. -/
theorem head_words_gap {name : Text} (hname : name.IsFieldName) (t : Text) :
    ∀ {gap : Text}, (∀ c ∈ gap, isBlank c ∨ c = ',') →
      ∀ w ∈ (words (gap ++ (name ++ t))).head?, w.head? ≠ some (.char '=')
  | [], _ => by
    rw [List.nil_append, words_append_ink hname.1.1 hname.1.ink]
    rintro _ ⟨⟩
    exact hname.head_ne _
  | c :: gap, hgap => by
    have ih := head_words_gap hname t fun d hd => hgap d (List.mem_cons_of_mem c hd)
    rcases hgap c List.mem_cons_self with hc | rfl
    · rw [List.cons_append, words_cons_blank hc]
      exact ih
    · have hwords := words_append_ink (a := [.char ',']) (by simp)
        (List.forall_mem_singleton.mpr rfl)
        (gap ++ (name ++ t))
      rw [List.cons_append, ← List.singleton_append, hwords]
      rintro _ ⟨⟩
      simp

section

variable {lead : Text} (hlead : ∀ c ∈ lead, isInk c)

include hlead

/-- A pair with blanks around its equals sign is read as its two names. -/
theorem projectRenameIn_of_blank (pair : ProjectRenamePair)
    (hblank : pair.before.val ≠ [] ∨ pair.after.val ≠ []) (rest : Text) :
    projectRenameIn (words (lead ++ (pair.spell ++ rest))) =
      some (lead ++ pair.new.val, pair.old.val ++ firstWord rest) := by
  obtain ⟨⟨new, hnew⟩, ⟨before, hbefore⟩, ⟨after, hafter⟩, ⟨old, hold⟩⟩ := pair
  rw [List.all_eq_true] at hbefore hafter
  have hne : lead ++ new ≠ [] := by simp [hnew.1.1]
  have hink : ∀ c ∈ lead ++ new, isInk c := fun c hc =>
    (List.mem_append.mp hc).elim (hlead c) (hnew.1.ink c)
  have hequals : ∀ c ∈ [CodePoint.char '='], isInk c := List.forall_mem_singleton.mpr rfl
  have hword : words (old ++ rest) = (old ++ firstWord rest) :: words (afterWord rest) :=
    words_append_ink hold.1.1 hold.1.ink rest
  have htext : lead ++ (new ++ (before ++ .char '=' :: (after ++ old)) ++ rest) =
      (lead ++ new) ++ (before ++ ([.char '='] ++ (after ++ (old ++ rest)))) := by
    simp
  refine (congrArg (fun t => projectRenameIn (words t)) htext).trans ?_
  cases before with
  | cons b before =>
    rw [words_append_space hne hink ⟨b :: before, by simp, hbefore⟩]
    cases after with
    | cons a after =>
      -- the equals sign is a word of its own
      rw [words_append_space (by simp) hequals ⟨a :: after, by simp, hafter⟩, hword]
      rfl
    | nil =>
      -- the equals sign begins the word of the old name
      obtain ⟨d, old, rfl⟩ := List.exists_cons_of_ne_nil hold.1.1
      have hword : words ((.char '=' :: d :: old) ++ rest) =
          (.char '=' :: d :: old ++ firstWord rest) :: words (afterWord rest) :=
        words_append_ink (by simp) (List.forall_mem_cons.mpr ⟨rfl, hold.1.ink⟩) rest
      refine (congrArg (fun ws => projectRenameIn ((lead ++ new) :: ws)) hword).trans ?_
      rfl
  | nil =>
    have hafter' : after ≠ [] := hblank.resolve_left fun h => h rfl
    -- the equals sign ends the word of the new name
    have hink' : ∀ c ∈ lead ++ new ++ [.char '='], isInk c := fun c hc =>
      (List.mem_append.mp hc).elim (hink c) (hequals c)
    rw [List.nil_append, ← List.append_assoc,
      words_append_space (by simp) hink' ⟨after, hafter', hafter⟩, hword, projectRenameIn,
      projectRenameAt_of_end hne (hold.head_ne _), Option.some_or]

/-- A pair in one word is read as its two names when no further equals sign
follows in the word or right after it. -/
theorem projectRenameIn_of_ink (pair : ProjectRenamePair)
    (hpair : pair.before.val = [] ∧ pair.after.val = []) {rest : Text}
    (hequals : .char '=' ∉ firstWord rest)
    (hnext : ∀ w ∈ (words (afterWord rest)).head?, w.head? ≠ some (.char '=')) :
    projectRenameIn (words (lead ++ (pair.spell ++ rest))) =
      some (lead ++ pair.new.val, pair.old.val ++ firstWord rest) := by
  have hspell := ProjectRenamePair.spell_of_nil hpair
  have hnew : lead ++ pair.new.val ≠ [] := by simp [pair.new.2.1.1]
  have hold : pair.old.val ++ firstWord rest ≠ [] := by simp [pair.old.2.1.1]
  have hequals : .char '=' ∉ pair.old.val ++ firstWord rest := fun h =>
    (List.mem_append.mp h).elim (fun h => (pair.old.2.2.1 _ h).2 rfl) hequals
  have hink : ∀ c ∈ lead ++ pair.spell, isInk c := fun c hc =>
    (List.mem_append.mp hc).elim (hlead c) (ProjectRenamePair.ink_spell hpair c)
  have hword : lead ++ pair.spell ++ firstWord rest =
      (lead ++ pair.new.val) ++ .char '=' :: (pair.old.val ++ firstWord rest) := by
    simp [hspell]
  rw [← List.append_assoc, words_append_ink (by simp [hspell]) hink, hword, projectRenameIn,
    projectRenameAt_of_inside hnew hold hequals hnext, Option.some_or]

/-- **The arguments of `project-rename` are read as two names:** the lead goes
into them, and what follows the lead is not read. -/
theorem projectRenameIn_listing (pair : ProjectRenamePair) (more : List (Gap × ProjectRenamePair)) :
    projectRenameIn (words (lead ++ (pair.spell ++ tailText ProjectRenamePair.spell more))) =
      some (ProjectRenamePair.readFrom lead pair more) := by
  induction more generalizing lead pair with
  | nil =>
    have hread : ProjectRenamePair.readFrom lead pair [] =
        (lead ++ pair.new.val, pair.old.val ++ firstWord []) := by
      simp [ProjectRenamePair.readFrom, firstWord]
    rw [hread]
    by_cases hpair : pair.before.val = [] ∧ pair.after.val = []
    · exact projectRenameIn_of_ink hlead pair hpair (fun h => nomatch h) fun _ h => nomatch h
    · exact projectRenameIn_of_blank hlead pair (Classical.not_and_iff_not_or_not.mp hpair) []
  | cons item more ih =>
    obtain ⟨gap, next⟩ := item
    rw [ProjectRenamePair.readFrom]
    split
    · rename_i hany
      by_cases hpair : pair.before.val = [] ∧ pair.after.val = []
      · -- the blank stands in the gap, so the word ends there
        have hgap : gap.val.any isBlank := by
          rw [List.any_append, Bool.or_eq_true] at hany
          exact hany.resolve_left (not_any_of_ink (ProjectRenamePair.ink_spell hpair))
        obtain ⟨hfirst, hafter⟩ := firstWord_append_of_any hgap
          (next.spell ++ tailText ProjectRenamePair.spell more)
        have hcut : firstWord gap.val ++ afterWord gap.val = gap.val := firstWord_append_afterWord _
        refine projectRenameIn_of_ink hlead pair hpair ?_ ?_
        · rw [tailText_cons, hfirst]
          intro h
          have hmem : .char '=' ∈ gap.val := hcut ▸ List.mem_append_left _ h
          exact (gap.2.2 _ hmem).elim (fun h => nomatch h) fun h => nomatch h
        · rw [tailText_cons, hafter, ProjectRenamePair.spell, List.append_assoc]
          refine head_words_gap next.new.2 _ fun c hc => ?_
          exact gap.2.2 c (hcut ▸ List.mem_append_right _ hc)
      · exact projectRenameIn_of_blank hlead pair (Classical.not_and_iff_not_or_not.mp hpair) _
    · rename_i hany
      have hlead' : ∀ c ∈ lead ++ (pair.spell ++ gap.val), isInk c := fun c hc =>
        (List.mem_append.mp hc).elim (hlead c) (ink_of_not_any hany c)
      rw [tailText_cons, ← List.append_assoc pair.spell, ← List.append_assoc lead]
      exact ih hlead' next

end

/-- A pair after a comma and a blank is not read. -/
theorem readFrom_snoc (x y : ProjectRenamePair) :
    ∀ (lead : Text) (pair : ProjectRenamePair) (more : List (Gap × ProjectRenamePair)),
      ProjectRenamePair.readFrom lead pair (more ++ [(commaSpace, x)]) =
        ProjectRenamePair.readFrom lead pair (more ++ [(commaSpace, y)])
  | lead, pair, [] => by
    have hany : (pair.spell ++ commaSpace.val).any isBlank := by
      rw [List.any_append, any_commaSpace, Bool.or_true]
    have hword : ∀ z : ProjectRenamePair, firstWord (tailText ProjectRenamePair.spell
        [(commaSpace, z)]) = _ := firstWord_tailText_snoc []
    simp only [List.nil_append, ProjectRenamePair.readFrom, if_pos hany, hword]
  | lead, pair, (gap, next) :: more => by
    have hword : ∀ z : ProjectRenamePair, firstWord (tailText ProjectRenamePair.spell
        ((gap, next) :: (more ++ [(commaSpace, z)]))) = _ :=
      firstWord_tailText_snoc ((gap, next) :: more)
    simp only [List.cons_append, ProjectRenamePair.readFrom, hword,
      readFrom_snoc x y (lead ++ (pair.spell ++ gap.val)) next more]

/-- What a pair is read with stays in its new name. -/
theorem isPrefix_readFrom (lead : Text) (pair : ProjectRenamePair) :
    ∀ more, lead <+: (ProjectRenamePair.readFrom lead pair more).1
  | [] => List.prefix_append _ _
  | (gap, next) :: more => by
    rw [ProjectRenamePair.readFrom]
    split
    · exact List.prefix_append _ _
    · exact (List.prefix_append _ _).trans (isPrefix_readFrom _ next more)

/-- The fields of the lead stand in the two names that are read. -/
theorem isInfix_readFrom {x : ProjectRenamePair} {field : Text}
    (hfield : field ∈ [x.new.val, x.old.val]) :
    ∀ {lead : Text} {pair : ProjectRenamePair} {more : List (Gap × ProjectRenamePair)},
      x ∈ leadFrom ProjectRenamePair.spell pair more →
        field <:+: (ProjectRenamePair.readFrom lead pair more).1 ∨
          field <:+: (ProjectRenamePair.readFrom lead pair more).2
  | lead, pair, [], h => by
    rw [leadFrom, List.mem_singleton] at h
    subst h
    simp only [List.mem_cons, List.not_mem_nil, or_false] at hfield
    rcases hfield with rfl | rfl
    · exact .inl (List.suffix_append _ _).isInfix
    · exact .inr (List.infix_refl _)
  | lead, pair, (gap, next) :: more, h => by
    rw [leadFrom] at h
    rw [ProjectRenamePair.readFrom]
    simp only [List.mem_cons, List.not_mem_nil, or_false] at hfield
    split at h
    · rename_i hany
      rw [if_pos hany]
      rw [List.mem_singleton] at h
      subst h
      rcases hfield with rfl | rfl
      · exact .inl (List.suffix_append _ _).isInfix
      · exact .inr (List.prefix_append _ _).isInfix
    · rename_i hany
      rw [if_neg hany]
      rcases List.mem_cons.mp h with rfl | h
      · have hspell : field <:+: x.spell := by
          rcases hfield with rfl | rfl
          · exact (List.prefix_append _ _).isInfix
          · exact ⟨x.new.val ++ (x.before.val ++ .char '=' :: x.after.val), [], by
              simp [ProjectRenamePair.spell]⟩
        have hlead : x.spell <:+: lead ++ (x.spell ++ gap.val) := List.infix_append' _ _ _
        exact .inl ((hspell.trans hlead).trans (isPrefix_readFrom _ next more).isInfix)
      · exact isInfix_readFrom (by simpa using hfield) h

/-! ### Keys with directions -/

/-- A key of `order by`: a field with a direction or without. -/
structure OrderKey where
  field : FieldName
  direction : Option (Space × Direction)

namespace OrderKey

/-- The text of a key. -/
def spell (key : OrderKey) : Text :=
  match key.direction with
  | some (space, direction) => key.field.val ++ (space.val ++ direction.name)
  | none => key.field.val

/-- The direction of a key with the text after it: a key without one takes it
from the start of the next word. -/
def directionIn (key : OrderKey) (rest : Text) : Option Direction :=
  match key.direction with
  | some (_, direction) => some direction
  | none => (words (afterWord rest)).head?.bind directionOf?

/-- The field of a key, with the text after it in the same word. -/
def wordIn (key : OrderKey) (rest : Text) : Text :=
  match key.direction with
  | some _ => key.field.val
  | none => key.field.val ++ firstWord rest

theorem firstWord_spell_append (key : OrderKey) (rest : Text) :
    firstWord (key.spell ++ rest) = key.wordIn rest := by
  obtain ⟨field, direction⟩ := key
  cases direction with
  | none => exact firstWord_append_ink field.2.1.ink rest
  | some given =>
    obtain ⟨space, direction⟩ := given
    show firstWord (field.val ++ (space.val ++ direction.name) ++ rest) = field.val
    rw [List.append_assoc, List.append_assoc, firstWord_append_blank (opensBlank_space space _),
      firstWord_of_ink field.2.1.ink]

theorem firstWord_spell (key : OrderKey) : firstWord key.spell = key.field.val := by
  have hword := key.firstWord_spell_append []
  rw [List.append_nil] at hword
  rw [hword, wordIn]
  split
  · rfl
  · exact List.append_nil _

end OrderKey

/-- The arguments of `order` are read as the first key. -/
theorem orderKey?_listing (key : OrderKey) (space : Space) (rest : Text) :
    orderKey? ("by" ++ (space.val ++ (key.spell ++ rest))) =
      some (key.wordIn rest, key.directionIn rest) := by
  have hby : IsName "by" := by decide
  have hname := key.field.2.1
  have hread : ∀ field ws, words (key.spell ++ rest) = field :: ws →
      orderKey? ("by" ++ (space.val ++ (key.spell ++ rest))) =
        some (field, ws.head?.bind directionOf?) := by
    intro field ws hwords
    rw [orderKey?, words_append_space hby.1 hby.ink, hwords]
    rfl
  obtain ⟨field, direction⟩ := key
  cases direction with
  | none => exact hread _ _ (words_append_ink hname.1 hname.ink rest)
  | some given =>
    obtain ⟨gap, direction⟩ := given
    have hdir := SharedStage.isName_direction direction
    have hwords : words (field.val ++ (gap.val ++ direction.name) ++ rest) =
        field.val :: (direction.name ++ firstWord rest) :: words (afterWord rest) := by
      rw [List.append_assoc, List.append_assoc, words_append_space hname.1 hname.ink,
        words_append_ink hdir.1 hdir.ink]
    refine (hread _ _ hwords).trans ?_
    cases direction <;> rfl

end TwinQuery
