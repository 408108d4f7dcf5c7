/-
# How much of an earliest time is kept

The time that a head gives with `earliest=` stands in its first predicate. Two
steps on the way there can change it. A value that begins with an amount, a
number and one of four units, is read as that amount, and what follows the
unit is dropped: `-1mon` is a minute. Of a value that begins with quotes only
what stands in them is read: of `"a"b` it is `a`, and quotes that end in a
later word take in what is before it. Any other value is read whole
(`timeValue?_timeRead`). Then the quotes are taken out, and a minus sign, the
first that there is and not only one at the start: a date loses the sign after
its year (`erase_minus_eq_iff`).

So the whole value without quotes and leading sign is what the predicate has
exactly when none of this happens (`headToKql_of_earliest`).

Key definitions: `OpensQuoted`, `TimeRead`, `dropMinus`.
Key theorems: `quotedTime?_eq_some_iff`, `timeValue?_timeRead`,
`erase_minus_eq_iff`, `TimeRead.erase_eq_iff`, `headToKql_of_earliest`.
-/
import Mathlib.Data.List.TakeWhile
import TwinQuery.Proofs.HeadWords

namespace TwinQuery

open Text

/-! ### What is read -/

/-- The time that a word gives, in the order in which the forms are tried. -/
theorem timeValue?_of_ink {t r : Text} (hne : t ≠ []) (hink : ∀ c ∈ t, isInk c)
    (hr : OpensBlank r) :
    timeValue? (t ++ r) = (relativeTime? t).or ((quotedTime? (t ++ r)).or (some t)) := by
  have hword : (t ++ r).takeWhile isInk = t := by
    rw [takeWhile_append_blank hr fun c => isInk_of_isBlank]
    exact List.takeWhile_eq_self_iff.mpr hink
  unfold timeValue?
  rw [hword, relativeTime?_append_blank hr]
  cases t with
  | nil => exact absurd rfl hne
  | cons c t => rfl

/-- A text begins with quotes around `body`. -/
structure OpensQuoted (t body : Text) : Prop where
  ne_nil : body ≠ []
  no_quote : .char '"' ∉ body
  start : .char '"' :: (body ++ [.char '"']) <+: t

theorem OpensQuoted.unquote_append {t body : Text} (h : OpensQuoted t body) (r : Text) :
    unquote (.char '"' :: (body ++ [.char '"']) ++ r) = body ++ unquote r := by
  have hbody := unquote_of_not_mem h.no_quote
  unfold unquote at hbody
  simp [unquote, hbody]

theorem quotedTime?_of_opensQuoted {t body : Text} (h : OpensQuoted t body) :
    quotedTime? t = some (.char '"' :: (body ++ [.char '"'])) := by
  obtain ⟨r, rfl⟩ := h.start
  rw [List.cons_append, List.append_assoc]
  exact (quotedTime?_of_quote h.no_quote r).trans (if_neg h.ne_nil)

/-- **A quoted time is what the quotes at the start stand around.** -/
theorem quotedTime?_eq_some_iff {t q : Text} :
    quotedTime? t = some q ↔
      ∃ body, OpensQuoted t body ∧ q = .char '"' :: (body ++ [.char '"']) := by
  constructor
  · intro h
    cases t with
    | nil => cases h
    | cons c t =>
      by_cases hc : c = '"'
      · subst hc
        by_cases hmem : .char '"' ∈ t
        · obtain ⟨u, v, rfl, hu⟩ := List.eq_append_cons_of_mem hmem
          rw [quotedTime?_of_quote hu] at h
          split at h
          · cases h
          · rename_i hne
            exact ⟨u, ⟨hne, hu, v, by simp⟩, (Option.some.inj h).symm⟩
        · rw [quotedTime?_of_not_mem hmem] at h
          cases h
      · rw [quotedTime?_of_ne hc] at h
        cases h
  · rintro ⟨body, hopens, rfl⟩
    exact quotedTime?_of_opensQuoted hopens

/-- What is read of a value that `rest` follows, without quotes: the amount
that it begins with, else what stands in the quotes that it begins with, even
if they end after it, else all of it. -/
inductive TimeRead (value rest : Text) : Text → Prop where
  | amount {time : Text} (isAmount : IsAmount time) (start : time <+: value) :
      TimeRead value rest time
  | quoted {body : Text} (opens : OpensQuoted (value ++ rest) body) : TimeRead value rest body
  | whole (noAmount : ∀ time, IsAmount time → ¬ time <+: value)
      (noQuotes : ∀ body, ¬ OpensQuoted (value ++ rest) body) : TimeRead value rest (unquote value)

theorem IsAmount.no_quote {t : Text} (h : IsAmount t) : .char '"' ∉ t :=
  h.not_mem (by decide) (by decide) (by decide)

/-- **What is read of a value** that something follows after a blank. -/
theorem timeValue?_timeRead {value rest : Text} (hne : value ≠ []) (hink : ∀ c ∈ value, isInk c)
    (hrest : OpensBlank rest) :
    ∃ time, timeValue? (value ++ rest) = some time ∧ TimeRead value rest (unquote time) := by
  have hread := timeValue?_of_ink hne hink hrest
  cases hamount : relativeTime? value with
  | some time =>
    obtain ⟨htime, hstart⟩ := relativeTime?_eq_some_iff.mp hamount
    refine ⟨time, by rw [hread, hamount]; rfl, ?_⟩
    rw [unquote_of_not_mem htime.no_quote]
    exact .amount htime hstart
  | none =>
    cases hquoted : quotedTime? (value ++ rest) with
    | some time =>
      obtain ⟨body, hopens, rfl⟩ := quotedTime?_eq_some_iff.mp hquoted
      refine ⟨_, by rw [hread, hamount, hquoted]; rfl, ?_⟩
      have hbody := hopens.unquote_append []
      rw [List.append_nil, show unquote [] = [] from rfl, List.append_nil] at hbody
      rw [hbody]
      exact .quoted hopens
    | none =>
      refine ⟨value, by rw [hread, hamount, hquoted]; rfl, .whole ?_ ?_⟩
      · intro time htime hstart
        rw [relativeTime?_eq_some_iff.mpr ⟨htime, hstart⟩] at hamount
        cases hamount
      · intro body hopens
        rw [quotedTime?_of_opensQuoted hopens] at hquoted
        cases hquoted

/-! ### What is passed on -/

/-- The text without a minus sign at its start. -/
def dropMinus : Text → Text
  | '-' :: t => t
  | t => t

theorem dropMinus_of_ne {t : Text} (h : t.head? ≠ some (.char '-')) : dropMinus t = t := by
  unfold dropMinus
  split
  · exact absurd rfl h
  · rfl

theorem dropMinus_append {t : Text} (ht : t ≠ []) (r : Text) :
    dropMinus (t ++ r) = dropMinus t ++ r := by
  obtain ⟨c, t, rfl⟩ := List.exists_cons_of_ne_nil ht
  by_cases hc : c = '-'
  · subst hc
    rfl
  · have hfirst : ∀ t : Text, (c :: t).head? ≠ some (.char '-') := fun t => by simpa using hc
    rw [List.cons_append, dropMinus_of_ne (hfirst _), dropMinus_of_ne (hfirst _), List.cons_append]

/-- **To take out the first minus sign is to take it from the start** exactly
when a text that has one begins with it. -/
theorem erase_minus_eq_iff (t : Text) :
    t.erase '-' = dropMinus t ↔ (.char '-' ∈ t → t.head? = some (.char '-')) := by
  by_cases hhead : t.head? = some (.char '-')
  · obtain ⟨t, rfl⟩ := List.head?_eq_some_iff.mp hhead
    exact iff_of_true (List.erase_cons_head ..) fun _ => rfl
  · rw [dropMinus_of_ne hhead, List.erase_eq_self_iff]
    exact ⟨fun h hmem => absurd hmem h, fun h hmem => hhead (h hmem)⟩

/-- Nothing follows what is passed on when all of a text is. -/
theorem eq_nil_of_erase_minus_eq {t r : Text} (ht : t ≠ [])
    (h : t.erase '-' = dropMinus (t ++ r)) : r = [] := by
  rw [dropMinus_append ht] at h
  have hlength := congrArg List.length h
  rw [List.length_append] at hlength
  by_cases hhead : t.head? = some (.char '-')
  · rw [(erase_minus_eq_iff t).mpr fun _ => hhead] at hlength
    exact List.length_eq_zero_iff.mp (by omega)
  · rw [dropMinus_of_ne hhead] at hlength
    have hle : (t.erase '-').length ≤ t.length := List.length_erase_le
    exact List.length_eq_zero_iff.mp (by omega)

theorem dropMinus_subset (t : Text) : dropMinus t ⊆ t := by
  unfold dropMinus
  split
  · exact List.subset_cons_self _ _
  · exact List.Subset.refl _

/-- Quotes that do not end in the value are around a blank that follows it. -/
theorem exists_blank_of_opensQuoted {value rest body : Text} (hrest : OpensBlank rest)
    (h : OpensQuoted (value ++ rest) body) (hend : ¬ .char '"' :: (body ++ [.char '"']) <+: value) :
    ∃ c ∈ body, isBlank c := by
  rcases List.prefix_or_prefix_of_prefix h.start (List.prefix_append value rest) with
    hstart | ⟨r, hr⟩
  · exact absurd hstart hend
  · have hprefix : r <+: rest := by
      have hall := h.start
      rw [← hr] at hall
      exact (List.prefix_append_right_inj value).mp hall
    cases r with
    | nil =>
      rw [List.append_nil] at hr
      exact absurd (hr ▸ List.prefix_rfl) hend
    | cons c r =>
      obtain ⟨q, rfl⟩ := hprefix
      have hblank : isBlank c := hrest c rfl
      have hquote : c ≠ '"' := by
        rintro rfl
        cases hblank
      have hmem : c ∈ .char '"' :: (body ++ [.char '"']) := by
        rw [← hr]
        simp
      refine ⟨c, ?_, hblank⟩
      simpa [hquote] using hmem

namespace TimeRead

variable {value rest time : Text}

theorem eq_unquote_iff (h : TimeRead value rest time) :
    time = unquote value ↔
      (∀ amount, IsAmount amount → amount <+: value → amount = unquote value) ∧
        ∀ body, OpensQuoted (value ++ rest) body → body = unquote value := by
  -- a value that begins with an amount does not begin with a quote
  have hapart : ∀ {amount body : Text}, IsAmount amount → amount <+: value →
      ¬ OpensQuoted (value ++ rest) body := by
    rintro amount body hamount hstart hopens
    obtain ⟨c, tail, rfl⟩ := List.exists_cons_of_ne_nil hamount.ne_nil
    have hquote : (['"'] : Text) <+: value ++ rest := (List.prefix_append _ _).trans hopens.start
    have hfirst : [c] <+: value ++ rest :=
      (List.prefix_append [c] tail).trans (hstart.trans (List.prefix_append value rest))
    have hc : c = '"' := by
      obtain ⟨r, hr⟩ := hquote
      obtain ⟨q, hq⟩ := hfirst
      exact (List.cons.inj (hq.trans hr.symm)).1
    exact hamount.no_quote (hc ▸ List.mem_cons_self)
  cases h with
  | amount hamount hstart =>
    have hread := relativeTime?_eq_some_iff.mpr ⟨hamount, hstart⟩
    constructor
    · intro heq
      refine ⟨fun other hother hprefix => ?_, fun body hopens => (hapart hamount hstart hopens).elim⟩
      -- a value begins with one amount at most
      rw [relativeTime?_eq_some_iff.mpr ⟨hother, hprefix⟩] at hread
      exact (Option.some.inj hread).trans heq
    · intro hall
      exact hall.1 time hamount hstart
  | quoted hopens =>
    have hread := quotedTime?_of_opensQuoted hopens
    constructor
    · intro heq
      refine ⟨fun other hother hprefix => (hapart hother hprefix hopens).elim, fun body hbody => ?_⟩
      rw [quotedTime?_of_opensQuoted hbody] at hread
      simp only [Option.some.injEq, List.cons.injEq, List.append_cancel_right_eq, true_and] at hread
      exact hread.trans heq
    · intro hall
      exact hall.2 time hopens
  | whole hamount hquotes =>
    exact iff_of_true rfl ⟨fun amount h hstart => absurd hstart (hamount amount h),
      fun body hbody => absurd hbody (hquotes body)⟩

/-- **The whole value is passed on,** without its quotes and its leading sign,
exactly when all of it is read and it begins with a minus sign if it has
one. -/
theorem erase_eq_iff (hink : ∀ c ∈ value, isInk c) (hrest : OpensBlank rest)
    (h : TimeRead value rest time) :
    time.erase '-' = dropMinus (unquote value) ↔
      time = unquote value ∧
        (.char '-' ∈ unquote value → (unquote value).head? = some (.char '-')) := by
  constructor
  · intro heq
    have htime : time = unquote value := by
      cases h with
      | amount hamount hstart =>
        obtain ⟨r, rfl⟩ := hstart
        have hsplit : unquote (time ++ r) = time ++ unquote r := by
          rw [unquote, List.filter_append]
          exact congrArg (· ++ _) (unquote_of_not_mem hamount.no_quote)
        rw [hsplit] at heq ⊢
        rw [eq_nil_of_erase_minus_eq hamount.ne_nil heq, List.append_nil]
      | quoted hopens =>
        by_cases hstart : .char '"' :: (time ++ [.char '"']) <+: value
        · obtain ⟨r, rfl⟩ := hstart
          rw [hopens.unquote_append] at heq ⊢
          rw [eq_nil_of_erase_minus_eq hopens.ne_nil heq, List.append_nil]
        · -- a blank that was read would have to stand in the value
          obtain ⟨c, hc, hblank⟩ := exists_blank_of_opensQuoted hrest hopens hstart
          have hsign : c ≠ '-' := by
            rintro rfl
            cases hblank
          have hmem : c ∈ time.erase '-' := (List.mem_erase_of_ne hsign).mpr hc
          rw [heq] at hmem
          have hvalue := hink c (unquote_subset _ (dropMinus_subset _ hmem))
          rw [isInk_of_isBlank hblank] at hvalue
          cases hvalue
      | whole => rfl
    subst htime
    exact ⟨rfl, (erase_minus_eq_iff _).mp heq⟩
  · rintro ⟨rfl, hsign⟩
    exact (erase_minus_eq_iff _).mpr hsign

end TimeRead

/-! ### The first predicate -/

/-- **The predicate on the time.** The first word that gives an earliest time
puts what is read of its value first among the predicates, without the first
minus sign in it. This is the whole value, without its quotes and without a
leading sign, exactly when the value does not go on after an amount or after
quotes that it begins with, when such quotes end in it, and when it begins
with a minus sign if it has one. -/
theorem headToKql_of_earliest {value head : Text} (hvalue : value ≠ []) {before after : List Text}
    (hwords : words head = before ++ ("earliest=" ++ value) :: after)
    (hbefore : ∀ word ∈ before, ¬ Carries "earliest=" word) :
    ∃ rest time others, (∃ lead, head = lead ++ ("earliest=" ++ value) ++ rest) ∧
      words rest = after ∧ TimeRead value rest time ∧
      (SearchHead.ofText head).predicates =
        ("TimeGenerated >= ago(" ++ time.erase '-' ++ ")") :: others ∧
      (headToKql head).text = (SearchHead.ofText head).table ++ "\n| where " ++
        joinWith " and " (SearchHead.ofText head).predicates ∧
      (time.erase '-' = dropMinus (unquote value) ↔
        ((∀ amount, IsAmount amount → amount <+: value → amount = unquote value) ∧
          ∀ body, OpensQuoted (value ++ rest) body → body = unquote value) ∧
          (.char '-' ∈ unquote value → (unquote value).head? = some (.char '-'))) := by
  have hfirst : FirstWith "earliest=" before ("earliest=" ++ value) [] value :=
    ⟨cutField_append (by decide) hvalue, hbefore⟩
  have hink : ∀ c ∈ value, isInk c := by
    intro c hc
    have hword : "earliest=" ++ value ∈ words head := by
      rw [hwords]
      simp
    exact (mem_words hword).2.1 c (List.mem_append_right _ hc)
  obtain ⟨rest, hsplit, hopens, hafter, hscan⟩ := earliestFrom_of_first hwords hfirst
  obtain ⟨time, htime, hread⟩ := timeValue?_timeRead hvalue hink hopens
  have hearliest : (SearchHead.ofText head).earliest = some time := hscan.trans htime
  obtain ⟨others, hpredicates⟩ : ∃ others, (SearchHead.ofText head).predicates =
      SearchHead.timePredicate time :: others := by
    unfold SearchHead.predicates
    rw [hearliest]
    exact ⟨_, rfl⟩
  have htext : (headToKql head).text = (SearchHead.ofText head).table ++ "\n| where " ++
      joinWith " and " (SearchHead.ofText head).predicates := by
    rw [headToKql, SearchHead.toKql, hpredicates, List.append_assoc]
  refine ⟨rest, unquote time, others, hsplit, hafter, hread, hpredicates, htext, ?_⟩
  rw [hread.erase_eq_iff hink hopens, hread.eq_unquote_iff]

/-- A date has minus signs but none at its start, a month begins like a
minute, and a value may go on after its quotes. None of the three is passed on
as it is. -/
theorem headToKql_of_earliest_date_month_quotes :
    (headToKql "index=main earliest=2024-01-15").text =
      "main\n| where TimeGenerated >= ago(202401-15)" ∧
    (headToKql "index=main earliest=-1mon").text = "main\n| where TimeGenerated >= ago(1m)" ∧
    (headToKql "index=main earliest=\"a\"b").text = "main\n| where TimeGenerated >= ago(a)" ∧
    (∃ rest time, TimeRead "2024-01-15" rest time ∧ time.erase '-' ≠ ofString "2024-01-15") ∧
    (∃ rest time, TimeRead "-1mon" rest time ∧ time.erase '-' ≠ ofString "1mon") ∧
    ∃ rest time, TimeRead "\"a\"b" rest time ∧ time.erase '-' ≠ ofString "ab" := by
  have hindex : ∀ word ∈ [ofString "index=main"], ¬ Carries "earliest=" word := by decide
  have hdate : words "index=main earliest=2024-01-15" =
      [ofString "index=main"] ++ ("earliest=" ++ ofString "2024-01-15") :: [] := by decide
  have hmonth : words "index=main earliest=-1mon" =
      [ofString "index=main"] ++ ("earliest=" ++ ofString "-1mon") :: [] := by decide
  have hquotes : words "index=main earliest=\"a\"b" =
      [ofString "index=main"] ++ ("earliest=" ++ ofString "\"a\"b") :: [] := by decide
  obtain ⟨restDate, date, -, -, -, hreadDate, -, -, hwholeDate⟩ :=
    headToKql_of_earliest (by decide) hdate hindex
  obtain ⟨restMonth, month, -, -, -, hreadMonth, -, -, hwholeMonth⟩ :=
    headToKql_of_earliest (by decide) hmonth hindex
  obtain ⟨restQuotes, quotes, -, -, -, hreadQuotes, -, -, hwholeQuotes⟩ :=
    headToKql_of_earliest (by decide) hquotes hindex
  refine ⟨by decide, by decide, by decide, ⟨restDate, date, hreadDate, fun h => ?_⟩,
    ⟨restMonth, month, hreadMonth, fun h => ?_⟩, restQuotes, quotes, hreadQuotes, fun h => ?_⟩
  · exact absurd ((hwholeDate.mp h).2 (by decide)) (by decide)
  · have hminute : relativeTime? "-1mon" = some "-1m" := by decide
    obtain ⟨hamount, hstart⟩ := relativeTime?_eq_some_iff.mp hminute
    exact absurd ((hwholeMonth.mp h).1.1 _ hamount hstart) (by decide)
  · have hopens : OpensQuoted (ofString "\"a\"b" ++ restQuotes) ['a'] :=
      ⟨by decide, by decide, .char 'b' :: restQuotes, rfl⟩
    exact absurd ((hwholeQuotes.mp h).1.2 _ hopens) (by decide)

end TwinQuery
