/-
# What is taken out of a text is a part of it

The rules of both languages take values, names and keys out of a head or out
of the arguments of a stage. None of them makes up a character: a value is
the end of a word (`fieldValue_eq_some`), a time is the start of a text
(`timeValue?_isPrefix`), a name is a word or a part of one, and what is left
when something is taken out holds characters of the text only, apart from the
blanks that the words are joined with.

Key theorems: `Text.isInfix_append_cons`, `cutFieldFrom_eq_some`,
`fieldValue_eq_some`, `earliestFrom_subset`, `subset_of_mem_terms`,
`takeSpan_subset`, `splitByClause_subset`, `renamePair?_subset`,
`sortKey?_subset`, `projectRenamePair?_subset`, `orderKey?_subset`.
-/
import TwinQuery.Kql.Argument
import TwinQuery.Proofs.Words
import TwinQuery.Spl.Head

namespace TwinQuery

open Text

theorem Text.dropStart?_eq_some_iff : ∀ {start t rest : Text},
    dropStart? start t = some rest ↔ t = start ++ rest
  | [], t, rest => by simp [dropStart?]
  | c :: start, [], rest => by simp [dropStart?]
  | c :: start, d :: t, rest => by
    by_cases hcd : c = d
    · subst hcd
      simp [dropStart?, @dropStart?_eq_some_iff start]
    · simp [dropStart?, hcd, Ne.symm hcd]

theorem Text.startsWith_iff_isPrefix (start t : Text) : startsWith start t ↔ start <+: t := by
  rw [startsWith, Option.isSome_iff_exists]
  exact exists_congr fun rest => dropStart?_eq_some_iff.trans eq_comm

theorem Text.hasPart_iff_isInfix (part : Text) : ∀ t : Text, hasPart part t ↔ part <:+: t
  | [] => by simp [hasPart]
  | c :: t => by
    rw [hasPart, Bool.or_eq_true, startsWith_iff_isPrefix, hasPart_iff_isInfix part t,
      List.infix_cons_iff]

theorem Text.isPrefix_append_cons {p a b : Text} {c : CodePoint} (hc : c ∉ p) :
    p <+: a ++ c :: b ↔ p <+: a := by
  constructor
  · intro h
    rcases List.prefix_or_prefix_of_prefix h (List.prefix_append a (c :: b)) with hpa | ⟨r, rfl⟩
    · exact hpa
    · -- what `p` has after `a` would begin with `c`
      cases r with
      | nil => exact ⟨[], by simp⟩
      | cons d r =>
        obtain ⟨rfl, -⟩ := List.cons_prefix_cons.mp ((List.prefix_append_right_inj a).mp h)
        exact absurd (by simp) hc
  · exact fun h => h.trans (List.prefix_append a (c :: b))

/-- A mark does not reach over a character that it does not have. -/
theorem Text.isInfix_append_cons {p b : Text} {c : CodePoint} (hc : c ∉ p) : ∀ a : Text,
    p <:+: a ++ c :: b ↔ p <:+: a ∨ p <:+: b
  | [] => by
    have hprefix := @isPrefix_append_cons p [] b c hc
    rw [List.nil_append] at hprefix ⊢
    rw [List.infix_cons_iff, hprefix, List.prefix_nil, List.infix_nil]
  | x :: a => by
    rw [List.cons_append, List.infix_cons_iff, List.infix_cons_iff, isInfix_append_cons hc a,
      ← List.cons_append, isPrefix_append_cons hc, or_assoc]

/-- The characters of the words are characters of the text. -/
theorem Text.flatten_words_subset (t : Text) : (words t).flatten ⊆ t := by
  intro c hc
  obtain ⟨w, hw, hc⟩ := List.mem_flatten.mp hc
  exact (mem_words hw).2.2 hc

theorem Text.joinWith_subset (s : Text) : ∀ ts : List Text, joinWith s ts ⊆ s ++ ts.flatten
  | [] => by simp [joinWith]
  | [t] => by simp [joinWith]
  | t :: u :: ts => by
    have ih := joinWith_subset s (u :: ts)
    intro c hc
    simp only [joinWith, List.mem_append] at hc
    rcases hc with (hc | hc) | hc
    · simp [hc]
    · simp [hc]
    · rcases List.mem_append.mp (ih hc) with hc | hc
      · simp [hc]
      · rw [List.flatten_cons]
        exact List.mem_append_right _ (List.mem_append_right _ hc)

/-! ### Terms -/

/-- **A word with a key is what stands before the key, the key and the
value.** -/
theorem cutFieldFrom_eq_some {key : Text} : ∀ {word : Text} {inWord : Bool} {before value : Text},
    cutFieldFrom key inWord word = some (before, value) →
      word = before ++ (key ++ value) ∧ value ≠ []
  | [], _, _, _, h => by simp [cutFieldFrom] at h
  | c :: rest, inWord, before, value, h => by
    unfold cutFieldFrom at h
    split at h
    · rename_i v tail hkey
      cases h
      cases inWord with
      | true => cases hkey
      | false =>
        have hword : c :: rest = key ++ v :: tail := dropStart?_eq_some_iff.mp hkey
        exact ⟨hword, by simp⟩
    · obtain ⟨⟨before', value'⟩, hrest, heq⟩ := Option.map_eq_some_iff.mp h
      cases heq
      obtain ⟨hword, hne⟩ := cutFieldFrom_eq_some hrest
      exact ⟨by rw [hword]; rfl, hne⟩

/-- **The value of a key is the end of a word.** -/
theorem fieldValue_eq_some {key t value : Text} (h : fieldValue key t = some value) :
    value ≠ [] ∧ ∃ word ∈ words t, value <:+ word := by
  obtain ⟨word, hword, hvalue⟩ := List.exists_of_findSome?_eq_some h
  obtain ⟨⟨before, _⟩, hcut, rfl⟩ := Option.map_eq_some_iff.mp hvalue
  obtain ⟨heq, hne⟩ := cutFieldFrom_eq_some hcut
  refine ⟨hne, word, hword, before ++ key, ?_⟩
  rw [heq, List.append_assoc]

theorem fieldValue_subset {key t value : Text} (h : fieldValue key t = some value) : value ⊆ t := by
  obtain ⟨-, word, hword, hsuffix⟩ := fieldValue_eq_some h
  exact List.Subset.trans hsuffix.subset (mem_words hword).2.2

theorem fieldValue_ink {key t value : Text} (h : fieldValue key t = some value) :
    ∀ c ∈ value, isInk c := by
  obtain ⟨-, word, hword, hsuffix⟩ := fieldValue_eq_some h
  exact fun c hc => (mem_words hword).2.1 c (hsuffix.subset hc)

theorem eraseField_isPrefix (key word : Text) : eraseField key word <+: word := by
  unfold eraseField
  cases h : cutField key word with
  | none => exact List.prefix_refl word
  | some parts => exact ⟨key ++ parts.2, (cutFieldFrom_eq_some h).1.symm⟩

theorem eraseField_subset (key word : Text) : eraseField key word ⊆ word :=
  (eraseField_isPrefix key word).subset

theorem unquote_subset (t : Text) : unquote t ⊆ t := List.filter_sublist.subset

/-! ### The head -/

theorem relativeTime?_isPrefix {t v : Text} (h : relativeTime? t = some v) : v <+: t := by
  unfold relativeTime? at h
  split at h
  rename_i sign rest hsign
  have ht : t = sign ++ rest := by
    split at hsign <;> cases hsign <;> rfl
  split at h
  · rename_i d digits unit tail hdigits hunit
    split at h
    · cases h
      have hrest : rest = (d :: digits) ++ unit :: tail := by
        rw [← hdigits, ← hunit, List.takeWhile_append_dropWhile]
      refine ⟨tail, ?_⟩
      rw [ht, hrest]
      simp
    · cases h
  · cases h

theorem quotedTime?_isPrefix {t v : Text} (h : quotedTime? t = some v) : v <+: t := by
  unfold quotedTime? at h
  split at h
  · rename_i rest
    split at h
    · rename_i c body quote tail hbody hquote
      cases h
      have hrest : rest = (c :: body) ++ quote :: tail := by
        rw [← hbody, ← hquote, List.takeWhile_append_dropWhile]
      refine ⟨tail, ?_⟩
      rw [hrest]
      simp
    · cases h
  · cases h

/-- **A time is the start of the text it is read from.** -/
theorem timeValue?_isPrefix {t v : Text} (h : timeValue? t = some v) : v <+: t := by
  unfold timeValue? at h
  split at h
  · cases h
  · rename_i c word hword
    rcases Option.or_eq_some_iff.mp h with h | ⟨-, h⟩
    · exact relativeTime?_isPrefix h
    · rcases Option.or_eq_some_iff.mp h with h | ⟨-, h⟩
      · exact quotedTime?_isPrefix h
      · cases h
        rw [← hword]
        exact List.takeWhile_prefix _

theorem earliestFrom_subset {v : Text} : ∀ {t : Text} {inWord : Bool},
    earliestFrom inWord t = some v → v ⊆ t
  | [], _, h => by simp [earliestFrom] at h
  | c :: rest, inWord, h => by
    have later : earliestFrom (isWord c) rest = some v → v ⊆ c :: rest := fun h =>
      List.Subset.trans (earliestFrom_subset h) (List.subset_cons_self c rest)
    unfold earliestFrom at h
    split at h
    · rename_i after hkey
      rcases Option.or_eq_some_iff.mp h with h | ⟨-, h⟩
      · cases inWord with
        | true => cases hkey
        | false =>
          have hword : c :: rest = "earliest=" ++ after := dropStart?_eq_some_iff.mp hkey
          rw [hword]
          exact List.Subset.trans (timeValue?_isPrefix h).subset (List.subset_append_right _ _)
      · exact later h
    · exact later h

theorem eraseLogSource_subset (word : Text) : eraseLogSource word ⊆ word :=
  List.Subset.trans (eraseField_subset _ _)
    (List.Subset.trans (eraseField_subset _ _) (eraseField_subset _ _))

/-- What is left of a head without its log source terms is a part of it. -/
theorem freeText_subset (head : Text) : freeText head ⊆ head :=
  List.Subset.trans (strip_subset _) (mapWords_subset eraseLogSource_subset head)

theorem subset_of_mem_freeText {head word : Text} (h : word ∈ words (freeText head)) :
    word ⊆ head :=
  List.Subset.trans (mem_words h).2.2 (freeText_subset head)

theorem subset_of_mem_terms {head term : Text} (h : term ∈ (SearchHead.ofText head).terms) :
    term ⊆ head :=
  subset_of_mem_freeText (List.mem_filter.mp h).1

/-! ### Arguments of SPL commands -/

theorem takeSpanWord_subset : ∀ {ws rest : List Text} {span : Text},
    takeSpanWord ws = some (span, rest) → span ⊆ ws.flatten ∧ rest.flatten ⊆ ws.flatten
  | [], _, _, h => by simp [takeSpanWord] at h
  | word :: ws, rest, span, h => by
    unfold takeSpanWord cutField at h
    split at h
    · rename_i hcut
      cases h
      rw [(cutFieldFrom_eq_some hcut).1, List.flatten_cons]
      exact ⟨by simp, by simp⟩
    · rename_i c before span hcut
      cases h
      rw [(cutFieldFrom_eq_some hcut).1, List.flatten_cons, List.flatten_cons]
      constructor
      · intro d hd
        simp [hd]
      · intro d hd
        rcases List.mem_append.mp hd with hd | hd
        · exact List.mem_append_left _ (List.mem_append_left _ hd)
        · exact List.mem_append_right _ hd
    · obtain ⟨⟨span', rest'⟩, hrest, heq⟩ := Option.map_eq_some_iff.mp h
      cases heq
      obtain ⟨hspan, hsub⟩ := takeSpanWord_subset hrest
      rw [List.flatten_cons, List.flatten_cons]
      refine ⟨List.subset_append_of_subset_right _ hspan, ?_⟩
      intro d hd
      rcases List.mem_append.mp hd with hd | hd
      · exact List.mem_append_left _ hd
      · exact List.mem_append_right _ (hsub hd)

/-- A span is a part of the arguments, and so is what is left without it, up
to blanks. -/
theorem takeSpan_subset {args rest : Text} {span : Option Text} (h : takeSpan args = (span, rest)) :
    (∀ v, span = some v → v ⊆ args) ∧ rest ⊆ ' ' :: args := by
  unfold takeSpan at h
  split at h
  · rename_i v ws hspan
    cases h
    obtain ⟨hv, hws⟩ := takeSpanWord_subset hspan
    have hwords := flatten_words_subset args
    refine ⟨fun _ heq => Option.some.inj heq ▸ List.Subset.trans hv hwords, fun c hc => ?_⟩
    rcases List.mem_append.mp (joinWith_subset _ ws hc) with hc | hc
    · rw [List.mem_singleton.mp hc]; exact List.mem_cons_self
    · exact List.mem_cons_of_mem _ (hwords (hws hc))
  · cases h
    exact ⟨fun _ heq => (nomatch heq), fun c hc => List.mem_cons_of_mem _ (strip_subset args hc)⟩

theorem afterBy?_subset {t rest : Text} (h : afterBy? t = some rest) : rest ⊆ t := by
  unfold afterBy? at h
  split at h
  · rename_i b y c tail hdrop
    split at h
    · cases h
      have htail : rest ⊆ t.dropWhile isBlank := by
        rw [hdrop]
        exact fun d hd => by simp [hd]
      exact List.Subset.trans htail (List.dropWhile_subset _)
    · cases h
  · cases h

theorem cutAtBy?_subset : ∀ {t before after : Text},
    cutAtBy? t = some (before, after) → before ⊆ t ∧ after ⊆ t
  | [], _, _, h => by simp [cutAtBy?] at h
  | c :: rest, before, after, h => by
    unfold cutAtBy? at h
    split at h
    · rename_i tail htail
      cases h
      split at htail
      · exact ⟨by simp, List.subset_cons_of_subset c (afterBy?_subset htail)⟩
      · cases htail
    · obtain ⟨⟨before', after'⟩, hrest, heq⟩ := Option.map_eq_some_iff.mp h
      cases heq
      obtain ⟨hbefore, hafter⟩ := cutAtBy?_subset hrest
      exact ⟨List.cons_subset_cons c hbefore, List.subset_cons_of_subset c hafter⟩

theorem splitByClause_subset {args aggregations : Text} {fields : Option Text}
    (h : splitByClause args = (aggregations, fields)) :
    aggregations ⊆ ' ' :: args ∧ ∀ v, fields = some v → v ⊆ ' ' :: args := by
  have hstrip : .char ' ' :: strip args ⊆ .char ' ' :: args :=
    List.cons_subset_cons _ (strip_subset args)
  unfold splitByClause at h
  split at h
  · rename_i before after hcut
    cases h
    obtain ⟨hbefore, hafter⟩ := cutAtBy?_subset hcut
    refine ⟨List.Subset.trans (strip_subset before) (List.Subset.trans hbefore hstrip), ?_⟩
    rintro _ ⟨⟩
    exact List.Subset.trans (strip_subset after) (List.Subset.trans hafter hstrip)
  · cases h
    exact ⟨fun c hc => List.mem_cons_of_mem _ (strip_subset args hc), fun _ heq => nomatch heq⟩

theorem mem_of_renamePairIn : ∀ {ws : List Text} {old new : Text},
    renamePairIn ws = some (old, new) → old ∈ ws ∧ new ∈ ws
  | old :: word :: new :: rest, old', new', h => by
    unfold renamePairIn at h
    split at h
    · cases h
      simp
    · obtain ⟨hold, hnew⟩ := mem_of_renamePairIn h
      exact ⟨List.mem_cons_of_mem _ hold, List.mem_cons_of_mem _ hnew⟩
  | [], _, _, h => by simp [renamePairIn] at h
  | [_], _, _, h => by simp [renamePairIn] at h
  | [_, _], _, _, h => by simp [renamePairIn] at h

theorem renamePair?_subset {args old new : Text} (h : renamePair? args = some (old, new)) :
    old ⊆ args ∧ new ⊆ args := by
  obtain ⟨hold, hnew⟩ := mem_of_renamePairIn h
  exact ⟨(mem_words hold).2.2, (mem_words hnew).2.2⟩

theorem sortKey?_subset {args field : Text} {direction : Direction}
    (h : sortKey? args = some (field, direction)) : field ⊆ args := by
  unfold sortKey? at h
  split at h
  · cases h
  · rename_i sign rest
    have htake : ∀ {c : CodePoint} {tail : Text},
        rest.takeWhile isInk = c :: tail → c :: tail ⊆ rest :=
      fun heq => heq ▸ (List.takeWhile_prefix _).subset
    split at h
    · split at h
      · cases h; simp
      · cases h
    · rename_i c tail heq
      have hkey := List.subset_cons_of_subset sign (htake heq)
      split at h
      · cases h; exact hkey
      · split at h
        · cases h; exact hkey
        · split at h
          · cases h; exact List.cons_subset_cons sign (htake heq)
          · cases h

theorem SpathOptions.subset_of_ofText? {args : Text} {options : SpathOptions}
    (h : SpathOptions.ofText? args = some options) :
    options.path ⊆ args ∧ options.output ⊆ args ∧ ∀ v, options.input = some v → v ⊆ args := by
  unfold SpathOptions.ofText? at h
  split at h
  · rename_i path output hpath houtput
    cases h
    exact ⟨fieldValue_subset hpath, fieldValue_subset houtput, fun v hv => fieldValue_subset hv⟩
  · cases h

/-! ### Arguments of KQL operators -/

theorem cutAtEquals_subset : ∀ {word before after : Text},
    cutAtEquals word = some (before, after) → before ⊆ word ∧ after ⊆ word
  | [], _, _, h => by simp [cutAtEquals] at h
  | c :: rest, before, after, h => by
    unfold cutAtEquals at h
    split at h
    · rename_i before' after' hrest
      cases h
      obtain ⟨hbefore, hafter⟩ := cutAtEquals_subset hrest
      exact ⟨List.cons_subset_cons c hbefore, List.subset_cons_of_subset c hafter⟩
    · split at h
      · cases h
        constructor
        · simp
        · intro e he
          simp only [List.mem_cons] at he ⊢
          exact Or.inr (Or.inr he)
      · cases h

theorem projectRenameAt_subset {word new old : Text} {rest : List Text}
    (h : projectRenameAt word rest = some (new, old)) :
    new ⊆ (word :: rest).flatten ∧ old ⊆ (word :: rest).flatten := by
  rw [List.flatten_cons]
  rcases Option.or_eq_some_iff.mp h with h | ⟨-, h⟩
  · split at h
    · cases h
      exact ⟨List.subset_append_left _ _, fun e he => by
        rw [List.flatten_cons]
        exact List.mem_append_right _ (List.mem_append_left _ (List.mem_cons_of_mem _ he))⟩
    · cases h
      exact ⟨List.subset_append_left _ _, fun e he => by simp [he]⟩
    · cases h
  rcases Option.or_eq_some_iff.mp h with h | ⟨-, h⟩
  · split at h
    · rename_i c before old rest hword _ _
      cases h
      have hsub : (c :: before).reverse ⊆ word := by
        rw [← List.reverse_reverse word, hword]
        intro e he
        simp only [List.mem_reverse, List.mem_cons] at he ⊢
        exact Or.inr he
      exact ⟨List.subset_append_of_subset_left _ hsub, fun e he => by simp [he]⟩
    · cases h
  · obtain ⟨hnew, hold⟩ := cutAtEquals_subset h
    exact ⟨List.subset_append_of_subset_left _ hnew, List.subset_append_of_subset_left _ hold⟩

theorem projectRenameIn_subset : ∀ {ws : List Text} {new old : Text},
    projectRenameIn ws = some (new, old) → new ⊆ ws.flatten ∧ old ⊆ ws.flatten
  | [], _, _, h => by simp [projectRenameIn] at h
  | word :: rest, new, old, h => by
    unfold projectRenameIn at h
    rcases Option.or_eq_some_iff.mp h with h | ⟨-, h⟩
    · exact projectRenameAt_subset h
    · obtain ⟨hnew, hold⟩ := projectRenameIn_subset h
      rw [List.flatten_cons]
      exact ⟨List.subset_append_of_subset_right _ hnew, List.subset_append_of_subset_right _ hold⟩

theorem projectRenamePair?_subset {args new old : Text}
    (h : projectRenamePair? args = some (new, old)) : new ⊆ args ∧ old ⊆ args := by
  obtain ⟨hnew, hold⟩ := projectRenameIn_subset h
  have hwords := flatten_words_subset args
  exact ⟨List.Subset.trans hnew hwords, List.Subset.trans hold hwords⟩

theorem mem_of_orderKeyIn : ∀ {ws : List Text} {field : Text} {direction : Option Direction},
    orderKeyIn ws = some (field, direction) → field ∈ ws
  | word :: field :: rest, field', direction, h => by
    unfold orderKeyIn at h
    split at h
    · cases h
      simp
    · exact List.mem_cons_of_mem _ (mem_of_orderKeyIn h)
  | [], _, _, h => by simp [orderKeyIn] at h
  | [_], _, _, h => by simp [orderKeyIn] at h

theorem orderKey?_subset {args field : Text} {direction : Option Direction}
    (h : orderKey? args = some (field, direction)) : field ⊆ args :=
  (mem_words (mem_of_orderKeyIn h)).2.2

theorem singleEquals_subset (t : Text) : singleEquals t ⊆ t := by
  fun_induction singleEquals t with
  | case1 rest ih => exact List.cons_subset_cons _ (List.subset_cons_of_subset _ ih)
  | case2 c rest _ ih => exact List.cons_subset_cons c ih
  | case3 => exact List.Subset.refl _

end TwinQuery
