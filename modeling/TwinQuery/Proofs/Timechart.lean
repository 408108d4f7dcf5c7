/-
# Time charts

The arguments of `timechart` are aggregations, possibly the word `by` with the
fields to group by, and an option for the span that may stand anywhere among
them. They are read in two passes. The first takes the option out and joins
the other words by single blanks (`takeSpan_of_words`), so that it no longer
matters where the option stood and which blanks were around it. The second
cuts the rest at the first `by` that stands between blanks; in a text of words
that each follow one blank (`spread`) that is the first word that is spelled so
(`cutAtBy?_spread`), and a word that merely has these letters in it is passed
over.

Without the option the first pass joins nothing, and the arguments are taken
as they stand. So the outcome is the same when they are divided by single
blanks, with the default for the span (`timechart_span_anywhere`).

Key definitions: `IsArgument`, `spellingsOfBy`, `spread`.
Key theorems: `takeSpan_of_words`, `cutAtBy?_spread`, `splitByClause_joinWith`,
`words_stageArguments`, `timechart_span_anywhere`.
-/
import TwinQuery.Proofs.HeadTokens

namespace TwinQuery

open Text

/-! ### The option for the span -/

/-- The option for the span, with its value. -/
def spanOption (span : Text) : Text := "span=" ++ span

/-- A word among the arguments of a chart: it has no blanks and does not hold
the option for the span. -/
def IsArgument (t : Text) : Prop := IsWordText t ∧ hasPart "span=" t = false

instance (t : Text) : Decidable (IsArgument t) := inferInstanceAs (Decidable (_ ∧ _))

theorem cutField_spanOption {span : Text} (h : span ≠ []) :
    cutField "span=" (spanOption span) = some ([], span) := by
  obtain ⟨c, span, rfl⟩ := List.exists_cons_of_ne_nil h
  rfl

theorem IsArgument.cutField {t : Text} (h : IsArgument t) : cutField "span=" t = none := by
  apply cutField_eq_none_of_not_isInfix
  rw [← hasPart_iff_isInfix, h.2]
  simp

/-- **The option is taken out** from wherever it stands. -/
theorem takeSpanWord_insert {span : Text} (hspan : span ≠ []) (right : List Text) :
    ∀ {left : List Text}, (∀ t ∈ left, IsArgument t) →
      takeSpanWord (left ++ spanOption span :: right) = some (span, left ++ right)
  | [], _ => by
    rw [List.nil_append, takeSpanWord, cutField_spanOption hspan]
    rfl
  | t :: left, h => by
    obtain ⟨ht, hleft⟩ := List.forall_mem_cons.mp h
    rw [List.cons_append, takeSpanWord, ht.cutField, takeSpanWord_insert hspan right hleft]
    rfl

theorem takeSpanWord_eq_none : ∀ {ws : List Text}, (∀ t ∈ ws, IsArgument t) →
    takeSpanWord ws = none
  | [], _ => rfl
  | t :: ws, h => by
    obtain ⟨ht, hws⟩ := List.forall_mem_cons.mp h
    rw [takeSpanWord, ht.cutField, takeSpanWord_eq_none hws]
    rfl

/-- What is left of the arguments is joined anew. -/
theorem takeSpan_of_words {args span : Text} {left right : List Text} (hspan : span ≠ [])
    (hleft : ∀ t ∈ left, IsArgument t)
    (hargs : words args = left ++ spanOption span :: right) :
    takeSpan args = (some span, joinWith " " (left ++ right)) := by
  rw [takeSpan, hargs, takeSpanWord_insert hspan right hleft]

theorem takeSpan_of_no_option {args : Text} (h : ∀ t ∈ words args, IsArgument t) :
    takeSpan args = (none, strip args) := by
  rw [takeSpan, takeSpanWord_eq_none h]

/-! ### The word by -/

/-- The word `by` in small and capital letters. -/
def spellingsOfBy : List Text := ["by", "By", "bY", "BY"]

theorem toNat_toLower_eq_iff (c : CodePoint) {n : Nat} (h : 97 ≤ n ∧ n ≤ 122) :
    c.toLower.toNat = n ↔ c.toNat = n ∨ c.toNat + 32 = n := by
  cases c with
  | half half =>
    have hhalf : 0xD800 ≤ (CodePoint.half half).toNat := Nat.le_add_right _ _
    show (CodePoint.half half).toNat = n ↔ _
    omega
  | char c =>
    show (Char.toLower c).toNat = n ↔ c.toNat = n ∨ c.toNat + 32 = n
    unfold Char.toLower
    split
    · rename_i hc
      have hcapital : 65 ≤ c.toNat ∧ c.toNat ≤ 90 := hc
      have hsum : (c.val + 32).toNat = c.toNat + 32 := by
        rw [UInt32.toNat_add]
        show (c.toNat + 32) % 4294967296 = c.toNat + 32
        omega
      show (c.val + 32).toNat = n ↔ _
      omega
    · rename_i hc
      have hother : ¬ (65 ≤ c.toNat ∧ c.toNat ≤ 90) := hc
      omega

/-- A small letter other than `s` is matched by itself and by its capital
letter only. -/
theorem foldLetter_eq_iff {c small capital : CodePoint}
    (hsmall : 97 ≤ small.toNat ∧ small.toNat ≤ 122)
    (hcapital : capital.toNat + 32 = small.toNat) (hs : small ≠ 's') :
    foldLetter c = small ↔ c = small ∨ c = capital := by
  have hlower := toNat_toLower_eq_iff c hsmall
  have hcode : ∀ d e : CodePoint, d = e ↔ d.toNat = e.toNat := fun d e => CodePoint.toNat_inj.symm
  unfold foldLetter
  split
  · rename_i hlong
    have hc : c.toNat = 383 := by rw [hlong]; rfl
    rw [hcode c small, hcode c capital]
    exact iff_of_false hs.symm (by omega)
  · rw [hcode, hlower, hcode c small, hcode c capital]
    omega

theorem isKeyword_by_iff (b y : CodePoint) : isKeyword "by" [b, y] ↔ [b, y] ∈ spellingsOfBy := by
  have hb : foldLetter b = 'b' ↔ b = 'b' ∨ b = 'B' := foldLetter_eq_iff (by decide) rfl (by decide)
  have hy : foldLetter y = 'y' ↔ y = 'y' ∨ y = 'Y' := foldLetter_eq_iff (by decide) rfl (by decide)
  have hletters : isKeyword "by" [b, y] ↔ foldLetter b = 'b' ∧ foldLetter y = 'y' := by
    simp [isKeyword, ofString]
  rw [hletters, hb, hy]
  constructor
  · rintro ⟨rfl | rfl, rfl | rfl⟩ <;> decide
  · intro h
    have hpair : ∀ word ∈ spellingsOfBy,
        (word[0]? = some (.char 'b') ∨ word[0]? = some (.char 'B')) ∧
          (word[1]? = some (.char 'y') ∨ word[1]? = some (.char 'Y')) := by
      decide
    simpa using hpair _ h

theorem isArgument_spelling {word : Text} (h : word ∈ spellingsOfBy) : IsArgument word :=
  (by decide : ∀ word ∈ spellingsOfBy, IsArgument word) word h

/-- A word that is not `by` is passed over, whatever letters it begins with. -/
theorem afterBy?_of_ne {word rest : Text} (hword : IsWordText word) (hby : word ∉ spellingsOfBy)
    (hrest : OpensBlank rest) : afterBy? (word ++ rest) = none := by
  obtain ⟨hne, hink⟩ := hword
  obtain ⟨b, word, rfl⟩ := List.exists_cons_of_ne_nil hne
  obtain ⟨hb, hink⟩ := List.forall_mem_cons.mp hink
  have hdrop : ((b :: word) ++ rest).dropWhile isBlank = b :: (word ++ rest) := by
    simp [(isInk_iff b).mp hb]
  rw [afterBy?, hdrop]
  cases word with
  | nil =>
    -- the second letter would be a blank
    cases rest with
    | nil => rfl
    | cons y rest =>
      have hy : isBlank y := hrest y rfl
      have hkeyword : isKeyword "by" [b, y] = false := by
        rw [Bool.eq_false_iff, Ne, isKeyword_by_iff]
        intro hmem
        have hyink : isInk y := (isArgument_spelling hmem).1.2 y (by simp)
        rw [isInk_of_isBlank hy] at hyink
        cases hyink
      cases rest <;> simp [hkeyword]
  | cons y word =>
    cases word with
    | nil =>
      have hkeyword : isKeyword "by" [b, y] = false := by
        rw [Bool.eq_false_iff, Ne, isKeyword_by_iff]
        exact hby
      cases rest <;> simp [hkeyword]
    | cons c word =>
      have hc := (isInk_iff c).mp (hink c (by simp))
      simp [hc]

theorem afterBy?_spelling {word : Text} (h : word ∈ spellingsOfBy) (rest : Text) :
    afterBy? (word ++ .char ' ' :: rest) = some rest := by
  simp only [spellingsOfBy, List.mem_cons, List.not_mem_nil, or_false] at h
  rcases h with rfl | rfl | rfl | rfl <;> rfl

theorem cutAtBy?_append_ink (rest : Text) : ∀ {t : Text}, (∀ c ∈ t, isInk c) →
    cutAtBy? (t ++ rest) = (cutAtBy? rest).map fun parts => (t ++ parts.1, parts.2)
  | [], _ => by simp
  | c :: t, h => by
    obtain ⟨hc, ht⟩ := List.forall_mem_cons.mp h
    rw [List.cons_append, cutAtBy?, (isInk_iff c).mp hc, cutAtBy?_append_ink rest ht]
    simp [Function.comp_def]

/-! ### Words after single blanks -/

/-- Words that each follow a blank. -/
def spread (ws : List Text) : Text := ws.flatMap (' ' :: ·)

theorem opensBlank_spread (ws : List Text) : OpensBlank (spread ws) := by
  cases ws with
  | nil => nofun
  | cons w ws => exact opensBlank_cons rfl _

theorem spread_cons (w : Text) (ws : List Text) :
    spread (w :: ws) = .char ' ' :: joinWith " " (w :: ws) := by
  rw [joinWith_eq_flatMap]
  rfl

theorem words_joinWith {ws : List Text} (h : ∀ w ∈ ws, IsWordText w) :
    words (joinWith " " ws) = ws := by
  have hspaced : Spaced ws (joinWith " " ws) :=
    spaced_joinWith (List.cons_ne_nil (CodePoint.char ' ') [])
      (List.forall_mem_singleton.mpr rfl) ws
  exact hspaced.words_eq h

theorem strip_joinWith_words : ∀ {ws : List Text}, (∀ w ∈ ws, IsWordText w) →
    strip (joinWith " " ws) = joinWith " " ws
  | [], _ => rfl
  | w :: ws, h => by
    have hword : ∀ v ∈ w :: ws, strip v ≠ [] ∧ stripEnd v = v := by
      intro v hv
      have hstrip : strip v = v := strip_of_ink (h v hv).2
      exact ⟨by rw [hstrip]; exact (h v hv).1, stripEnd_of_stripped hstrip⟩
    obtain ⟨c, w, rfl⟩ := List.exists_cons_of_ne_nil (h w List.mem_cons_self).1
    have hc : isInk c := (h _ List.mem_cons_self).2 c List.mem_cons_self
    have hstart : stripStart (joinWith " " ((c :: w) :: ws)) = joinWith " " ((c :: w) :: ws) := by
      rw [joinWith_eq_flatMap, List.cons_append, stripStart_cons_ink hc]
    rw [strip, hstart]
    exact (stripEnd_joinWith " " (List.cons_ne_nil _ _) hword).2

theorem strip_spread {ws : List Text} (h : ∀ w ∈ ws, IsWordText w) :
    strip (spread ws) = joinWith " " ws := by
  cases ws with
  | nil => rfl
  | cons w ws => rw [spread_cons, strip_cons_blank rfl, strip_joinWith_words h]

theorem cutAtBy?_spread_cons {w : Text} (hw : IsWordText w) (hby : w ∉ spellingsOfBy)
    (ws : List Text) :
    cutAtBy? (spread (w :: ws)) =
      (cutAtBy? (spread ws)).map fun parts => (.char ' ' :: w ++ parts.1, parts.2) := by
  have hpassed := afterBy?_of_ne hw hby (opensBlank_spread ws)
  have hblank : isBlank ' ' := rfl
  show cutAtBy? (' ' :: (w ++ spread ws)) = _
  rw [cutAtBy?, if_pos hblank, hpassed, cutAtBy?_append_ink _ hw.2]
  simp [Function.comp_def]

theorem cutAtBy?_spread_eq_none : ∀ {ws : List Text},
    (∀ w ∈ ws, IsWordText w ∧ w ∉ spellingsOfBy) → cutAtBy? (spread ws) = none
  | [], _ => rfl
  | w :: ws, h => by
    obtain ⟨⟨hw, hby⟩, hws⟩ := List.forall_mem_cons.mp h
    rw [cutAtBy?_spread_cons hw hby, cutAtBy?_spread_eq_none hws]
    rfl

/-- **Words are cut at the first `by` among them.** -/
theorem cutAtBy?_spread {word : Text} (hword : word ∈ spellingsOfBy) (next : Text)
    (rest : List Text) : ∀ {ws : List Text}, (∀ w ∈ ws, IsWordText w ∧ w ∉ spellingsOfBy) →
    cutAtBy? (spread (ws ++ word :: next :: rest)) =
      some (spread ws, joinWith " " (next :: rest))
  | [], _ => by
    have hblank : isBlank ' ' := rfl
    show cutAtBy? (' ' :: (word ++ spread (next :: rest))) = _
    rw [cutAtBy?, if_pos hblank, spread_cons, afterBy?_spelling hword]
    rfl
  | w :: ws, h => by
    obtain ⟨⟨hw, hby⟩, hws⟩ := List.forall_mem_cons.mp h
    rw [List.cons_append, cutAtBy?_spread_cons hw hby, cutAtBy?_spread hword next rest hws]
    rfl

/-- Words without `by` are all aggregations. -/
theorem splitByClause_of_no_by {ws : List Text}
    (h : ∀ w ∈ ws, IsWordText w ∧ w ∉ spellingsOfBy) :
    splitByClause (joinWith " " ws) = (joinWith " " ws, none) := by
  have hstrip := strip_joinWith_words fun w hw => (h w hw).1
  have hcut : cutAtBy? (' ' :: joinWith " " ws) = none := by
    cases ws with
    | nil => rfl
    | cons w ws => rw [← spread_cons, cutAtBy?_spread_eq_none h]
  rw [splitByClause, hstrip, hcut]

/-- **The first `by` divides the aggregations from the fields.** -/
theorem splitByClause_joinWith {ws groups : List Text} {word : Text}
    (h : ∀ w ∈ ws, IsWordText w ∧ w ∉ spellingsOfBy) (hword : word ∈ spellingsOfBy)
    (hne : groups ≠ []) (hgroups : ∀ w ∈ groups, IsWordText w) :
    splitByClause (joinWith " " (ws ++ word :: groups)) =
      (joinWith " " ws, some (joinWith " " groups)) := by
  have hws : ∀ w ∈ ws, IsWordText w := fun w hw => (h w hw).1
  have hall : ∀ w ∈ ws ++ word :: groups, IsWordText w :=
    List.forall_mem_append.mpr
      ⟨hws, List.forall_mem_cons.mpr ⟨(isArgument_spelling hword).1, hgroups⟩⟩
  obtain ⟨next, rest, rfl⟩ := List.exists_cons_of_ne_nil hne
  obtain ⟨first, others, hcons⟩ :=
    List.exists_cons_of_ne_nil (List.append_ne_nil_of_right_ne_nil ws (List.cons_ne_nil word _))
  have hcut : cutAtBy? (' ' :: joinWith " " (ws ++ word :: next :: rest)) =
      some (spread ws, joinWith " " (next :: rest)) := by
    rw [← cutAtBy?_spread hword next rest h, hcons, spread_cons]
  rw [splitByClause, strip_joinWith_words hall, hcut]
  dsimp only
  rw [strip_spread hws, strip_joinWith_words hgroups]

/-! ### The words of a stage -/

theorem firstWord_of_words {t w : Text} {ws : List Text} (hstart : stripStart t = t)
    (h : words t = w :: ws) : firstWord t = w ∧ words (afterWord t) = ws := by
  cases t with
  | nil => cases h
  | cons c t =>
    have hc : isInk c := by
      by_contra hc
      have hblank := isBlank_of_not_isInk hc
      have hlength := congrArg List.length hstart
      rw [stripStart_cons_blank hblank, List.length_cons] at hlength
      have hle : (stripStart t).length ≤ t.length := (List.dropWhile_sublist _).length_le
      omega
    have hink : ∀ d ∈ [c], isInk d := List.forall_mem_singleton.mpr hc
    have hwords := words_append_ink (List.cons_ne_nil c []) hink t
    rw [List.singleton_append, h, List.cons.injEq] at hwords
    refine ⟨?_, ?_⟩
    · rw [hwords.1, ← firstWord_append_ink hink, List.singleton_append]
    · rw [hwords.2, afterWord, List.dropWhile_cons_of_pos hc]
      rfl

/-- The words of the arguments are those after the verb. -/
theorem words_stageArguments {stage verb : Text} {ws : List Text} (h : words stage = verb :: ws) :
    words (stageArguments stage verb) = ws := by
  rw [← words_strip] at h
  obtain ⟨hfirst, hafter⟩ := firstWord_of_words (stripStart_strip stage) h
  have hdrop : (strip stage).drop verb.length = afterWord (strip stage) := by
    calc (strip stage).drop verb.length
        = (verb ++ afterWord (strip stage)).drop verb.length := by
          rw [← hfirst, firstWord_append_afterWord]
      _ = afterWord (strip stage) := List.drop_left
  rw [stageArguments, words_strip, hdrop, hafter]

/-! ### Charts -/

/-- The first pass leaves the words around the option, whichever they are. -/
theorem takeSpan_stageArguments {stage verb span : Text} {ws left right : List Text}
    (hws : ∀ t ∈ ws, IsArgument t) (hspan : span ≠ []) (hsplit : left ++ right = ws)
    (hstage : words stage = verb :: (left ++ spanOption span :: right)) :
    takeSpan (stageArguments stage verb) = (some span, joinWith " " ws) := by
  subst hsplit
  exact takeSpan_of_words hspan (List.forall_mem_append.mp hws).1 (words_stageArguments hstage)

theorem takeSpan_joinWith {ws : List Text} (hws : ∀ t ∈ ws, IsArgument t) :
    takeSpan (joinWith " " ws) = (none, joinWith " " ws) := by
  have hword : ∀ t ∈ ws, IsWordText t := fun t ht => (hws t ht).1
  rw [takeSpan_of_no_option (by rwa [words_joinWith hword]), strip_joinWith_words hword]

section

variable {args : Text} {span : Option Text} {aggregations : List Text}
  (haggregations : ∀ w ∈ aggregations, IsWordText w ∧ w ∉ spellingsOfBy)

include haggregations

theorem timechartToKql_of_no_by (hrest : takeSpan args = (span, joinWith " " aggregations)) :
    timechartToKql args =
      "summarize " ++ joinWith " " aggregations ++ " by bin(TimeGenerated, " ++
        span.getD timechartDefaultSpan ++ ")" := by
  rw [timechartToKql, hrest]
  dsimp only
  rw [splitByClause_of_no_by haggregations]
  simp [ofString]

theorem timechartToKql_of_by {word : Text} {groups : List Text} (hword : word ∈ spellingsOfBy)
    (hne : groups ≠ []) (hgroups : ∀ w ∈ groups, IsWordText w)
    (hrest : takeSpan args = (span, joinWith " " (aggregations ++ word :: groups))) :
    timechartToKql args =
      "summarize " ++ joinWith " " aggregations ++ " by bin(TimeGenerated, " ++
        span.getD timechartDefaultSpan ++ "), " ++ joinWith " " groups := by
  obtain ⟨c, fields, hfields⟩ :=
    List.exists_cons_of_ne_nil (joinWith_ne_nil hne (fun w hw => (hgroups w hw).1) " ")
  rw [timechartToKql, hrest]
  dsimp only
  rw [splitByClause_joinWith haggregations hword hne hgroups, hfields]
  simp [ofString]

end

/-- **A chart reads the same wherever its span stands.** The words of a
`timechart` stage are aggregations and possibly `by` with the fields to group
by. Put anywhere among them, and with any blanks between the words, the option
for the span gives the size of the time bins and leaves no other trace; without
it, words between single blanks are charted by the hour. -/
theorem timechart_span_anywhere (stage : Text) (equivalent : Doc) (aggregations : List Text)
    (haggregations : ∀ t ∈ aggregations, IsArgument t ∧ t ∉ spellingsOfBy) :
    (∀ span left right, IsWordText span → left ++ right = aggregations →
      words stage = ofString "timechart" :: (left ++ spanOption span :: right) →
      commandToKql stage "timechart" equivalent =
        .plain ("summarize " ++ joinWith " " aggregations ++ " by bin(TimeGenerated, " ++ span ++
          ")")) ∧
    (stageArguments stage "timechart" = joinWith " " aggregations →
      commandToKql stage "timechart" equivalent =
        .plain ("summarize " ++ joinWith " " aggregations ++ " by bin(TimeGenerated, 1h)")) ∧
    ∀ word groups, word ∈ spellingsOfBy → groups ≠ [] → (∀ t ∈ groups, IsArgument t) →
      (∀ span left right, IsWordText span → left ++ right = aggregations ++ word :: groups →
        words stage = ofString "timechart" :: (left ++ spanOption span :: right) →
        commandToKql stage "timechart" equivalent =
          .plain ("summarize " ++ joinWith " " aggregations ++ " by bin(TimeGenerated, " ++ span ++
            "), " ++ joinWith " " groups)) ∧
      (stageArguments stage "timechart" = joinWith " " (aggregations ++ word :: groups) →
        commandToKql stage "timechart" equivalent =
          .plain ("summarize " ++ joinWith " " aggregations ++ " by bin(TimeGenerated, 1h), " ++
            joinWith " " groups)) := by
  have hcommand : commandToKql stage "timechart" equivalent =
      .plain (timechartToKql (stageArguments stage "timechart")) := rfl
  have hplain : ∀ t ∈ aggregations, IsArgument t := fun t ht => (haggregations t ht).1
  have hwords : ∀ t ∈ aggregations, IsWordText t ∧ t ∉ spellingsOfBy :=
    fun t ht => ⟨(hplain t ht).1, (haggregations t ht).2⟩
  rw [hcommand]
  refine ⟨?_, ?_, ?_⟩
  · intro span left right hspan hsplit hstage
    rw [timechartToKql_of_no_by hwords (takeSpan_stageArguments hplain hspan.1 hsplit hstage),
      Option.getD_some]
  · intro hargs
    rw [hargs, timechartToKql_of_no_by hwords (takeSpan_joinWith hplain)]
    simp [timechartDefaultSpan, ofString]
  · intro word groups hword hne hgroups
    have hall : ∀ t ∈ aggregations ++ word :: groups, IsArgument t :=
      List.forall_mem_append.mpr
        ⟨hplain, List.forall_mem_cons.mpr ⟨isArgument_spelling hword, hgroups⟩⟩
    have hgroupWords : ∀ t ∈ groups, IsWordText t := fun t ht => (hgroups t ht).1
    refine ⟨?_, ?_⟩
    · intro span left right hspan hsplit hstage
      rw [timechartToKql_of_by hwords hword hne hgroupWords
        (takeSpan_stageArguments hall hspan.1 hsplit hstage), Option.getD_some]
    · intro hargs
      rw [hargs, timechartToKql_of_by hwords hword hne hgroupWords (takeSpan_joinWith hall)]
      simp [timechartDefaultSpan, ofString]

/-- The option between `By` and its fields, among words that only resemble `by`
and the option; the option with nothing to aggregate; and no arguments. -/
theorem timechart_span_anywhere_around_by :
    (∀ t ∈ [ofString "byte", "wingspan"], IsArgument t ∧ t ∉ spellingsOfBy) ∧
    commandToKql " timechart  byte\twingspan By span=5m\u00A0by  host" "timechart" Doc.null =
      .plain "summarize byte wingspan by bin(TimeGenerated, 5m), by host" ∧
    commandToKql "timechart span=span= by host" "timechart" Doc.null =
      .plain "summarize  by bin(TimeGenerated, span=), host" ∧
    commandToKql "timechart" "timechart" Doc.null =
      .plain "summarize  by bin(TimeGenerated, 1h)" := by
  have harguments : ∀ t ∈ [ofString "byte", "wingspan"], IsArgument t ∧ t ∉ spellingsOfBy := by
    decide
  have hnone : ∀ t ∈ ([] : List Text), IsArgument t ∧ t ∉ spellingsOfBy := nofun
  refine ⟨harguments, ?_, ?_, ?_⟩
  · exact ((timechart_span_anywhere " timechart  byte\twingspan By span=5m\u00A0by  host" Doc.null
      ["byte", "wingspan"] harguments).2.2 "By" ["by", "host"] (by decide) (by decide)
      (by decide)).1 "5m" ["byte", "wingspan", "By"] ["by", "host"] (by decide) rfl rfl
  · exact ((timechart_span_anywhere "timechart span=span= by host" Doc.null [] hnone).2.2 "by"
      ["host"] (by decide) (by decide) (by decide)).1 "span=" [] ["by", "host"] (by decide) rfl rfl
  · exact (timechart_span_anywhere "timechart" Doc.null [] hnone).2.1 rfl

end TwinQuery
