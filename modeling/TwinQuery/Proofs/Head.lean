/-
# Blanks after a search head

A search head means the same with and without blanks after it. Most of what
it says is read off its words, which the blanks do not change. The earliest
time is read off the text itself, since a quoted time may hold blanks; but
neither the key nor a time can begin in blanks at the end or reach into them:
a relative time ends with its unit (`relativeTime?_eq_some_iff`) and a quoted
one with a quote.

Key definitions: `IsSpan`, `IsAmount`.
Key theorems: `relativeTime?_eq_some_iff`, `timeValue?_append_blank`,
`earliestFrom_append_blank`, `SearchHead.ofText_append_blank`,
`SearchHead.ofText_stripEnd`.
-/
import TwinQuery.Proofs.Extraction

namespace TwinQuery

open Text

/-! ### Digits and word characters -/

/-- A class of characters holds no blank when it holds none in ASCII and its
ranges elsewhere do not meet those of the blanks. -/
theorem not_of_isBlank {p : CodePoint → Bool} {ranges : List (Nat × Nat)}
    (hp : ∀ c : CodePoint, ¬ c.toNat < 128 → p c = inRanges ranges c.toNat)
    (hascii : ∀ n < 128, inRanges blankRanges n → p (CodePoint.ofNat n) = false)
    (hdisjoint : ∀ r ∈ ranges, ∀ b ∈ blankRanges, r.2 < b.1 ∨ b.2 < r.1) {c : CodePoint}
    (h : isBlank c) : p c = false := by
  by_cases hc : c.toNat < 128
  · have hword := hascii c.toNat hc h
    rwa [CodePoint.ofNat_toNat] at hword
  · rw [hp c hc]
    cases hr : inRanges ranges c.toNat with
    | false => rfl
    | true =>
      obtain ⟨r, hr, hlow, hhigh⟩ := exists_range_of_inRanges hr
      obtain ⟨b, hb, hlow', hhigh'⟩ := exists_range_of_inRanges h
      have := hdisjoint r hr b hb
      omega

theorem isDigit_of_isBlank {c : CodePoint} (h : isBlank c) : isDigit c = false :=
  not_of_isBlank (p := isDigit) (fun _ hc => if_neg hc) (by decide +kernel) (by decide +kernel) h

theorem isWord_of_isBlank {c : CodePoint} (h : isBlank c) : isWord c = false :=
  not_of_isBlank (p := isWord) (fun _ hc => if_neg hc) (by decide +kernel) (by decide +kernel) h

/-! ### Times -/

/-- A number and its unit, after a sign. -/
def signedAmount? (sign t : Text) : Option Text :=
  match t.takeWhile isDigit, t.dropWhile isDigit with
  | d :: digits, unit :: _ =>
    if unit = 's' || unit = 'm' || unit = 'h' || unit = 'd' then
      some (sign ++ (d :: digits) ++ [unit])
    else none
  | _, _ => none

theorem relativeTime?_minus (t : Text) : relativeTime? ('-' :: t) = signedAmount? ['-'] t := rfl

theorem relativeTime?_of_ne {c : CodePoint} (hc : c ≠ '-') (t : Text) :
    relativeTime? (c :: t) = signedAmount? [] (c :: t) := by
  unfold relativeTime?
  split
  rename_i hsign
  split at hsign
  · rename_i hminus
    exact absurd (List.cons.inj hminus).1 hc
  · cases hsign
    rfl

/-- A number of seconds, minutes, hours or days; its digits may be those of any
script. -/
def IsSpan (t : Text) : Prop :=
  ∃ digits unit, digits ≠ [] ∧ (∀ d ∈ digits, isDigit d) ∧
    unit ∈ [.char 's', .char 'm', .char 'h', .char 'd'] ∧
    t = digits ++ [unit]

/-- A span with or without a minus sign. -/
def IsAmount (t : Text) : Prop := IsSpan t ∨ ∃ span, IsSpan span ∧ t = .char '-' :: span

theorem IsSpan.not_mem {t : Text} (h : IsSpan t) {c : CodePoint} (hdigit : isDigit c = false)
    (hunit : c ∉ [.char 's', .char 'm', .char 'h', .char 'd']) : c ∉ t := by
  obtain ⟨digits, unit, -, hdigits, hmem, rfl⟩ := h
  intro hc
  rcases List.mem_append.mp hc with hc | hc
  · rw [hdigits c hc] at hdigit
    cases hdigit
  · rw [List.mem_singleton.mp hc] at hunit
    exact hunit hmem

theorem IsAmount.not_mem {t : Text} (h : IsAmount t) {c : CodePoint} (hsign : c ≠ '-')
    (hdigit : isDigit c = false) (hunit : c ∉ [.char 's', .char 'm', .char 'h', .char 'd']) :
    c ∉ t := by
  rcases h with h | ⟨span, h, rfl⟩
  · exact h.not_mem hdigit hunit
  · rw [List.mem_cons, not_or]
    exact ⟨hsign, h.not_mem hdigit hunit⟩

theorem IsAmount.ink {t : Text} (h : IsAmount t) : ∀ c ∈ t, isInk c := by
  intro c hc
  rw [isInk_iff, Bool.eq_false_iff]
  intro hblank
  have hunit : c ∉ [.char 's', .char 'm', .char 'h', .char 'd'] := by
    intro hmem
    simp only [List.mem_cons, List.not_mem_nil, or_false] at hmem
    rcases hmem with rfl | rfl | rfl | rfl <;> cases hblank
  refine h.not_mem ?_ (isDigit_of_isBlank hblank) hunit hc
  rintro rfl
  cases hblank

theorem IsAmount.ne_nil {t : Text} (h : IsAmount t) : t ≠ [] := by
  rcases h with ⟨digits, unit, -, -, -, rfl⟩ | ⟨span, -, rfl⟩ <;> simp

theorem signedAmount?_eq_some_iff {sign t v : Text} :
    signedAmount? sign t = some v ↔ ∃ span r, IsSpan span ∧ t = span ++ r ∧ v = sign ++ span := by
  constructor
  · intro h
    unfold signedAmount? at h
    split at h
    · rename_i d digits unit r htake hdrop
      split at h
      · rename_i hunit
        have hdigits : ∀ c ∈ d :: digits, isDigit c := by
          rw [← htake]
          exact List.all_eq_true.mp List.all_takeWhile
        have hsplit : t = (d :: digits ++ [unit]) ++ r := by
          rw [← List.takeWhile_append_dropWhile (p := isDigit) (l := t), htake, hdrop]
          simp
        have hspan : IsSpan (d :: digits ++ [unit]) :=
          ⟨d :: digits, unit, by simp, hdigits, by simpa [or_assoc] using hunit, rfl⟩
        exact ⟨d :: digits ++ [unit], r, hspan, hsplit, by simpa using (Option.some.inj h).symm⟩
      · cases h
    · cases h
  · rintro ⟨span, r, ⟨digits, unit, hne, hdigits, hunit, rfl⟩, rfl, rfl⟩
    simp only [List.mem_cons, List.not_mem_nil, or_false] at hunit
    have hstop : isDigit unit = false := by
      rcases hunit with rfl | rfl | rfl | rfl <;> rfl
    have htake : (digits ++ [unit] ++ r).takeWhile isDigit = digits := by
      rw [List.append_assoc, List.takeWhile_append_of_pos hdigits]
      simp [hstop]
    have hdrop : (digits ++ [unit] ++ r).dropWhile isDigit = unit :: r := by
      rw [List.append_assoc, List.dropWhile_append_of_pos hdigits]
      simp [hstop]
    obtain ⟨d, digits, rfl⟩ := List.exists_cons_of_ne_nil hne
    rw [signedAmount?, htake, hdrop]
    simp only
    rw [if_pos (by simpa [or_assoc] using hunit)]
    simp

/-- **A relative time is an amount that the text begins with.** -/
theorem relativeTime?_eq_some_iff {t v : Text} :
    relativeTime? t = some v ↔ IsAmount v ∧ v <+: t := by
  have hminus : ∀ {span : Text}, IsSpan span → .char '-' ∉ span := fun h =>
    h.not_mem (by decide) (by decide)
  cases t with
  | nil =>
    refine iff_of_false nofun ?_
    rintro ⟨hamount, hstart⟩
    exact hamount.ne_nil (List.prefix_nil.mp hstart)
  | cons c t =>
    by_cases hc : c = '-'
    · subst hc
      rw [relativeTime?_minus, signedAmount?_eq_some_iff]
      constructor
      · rintro ⟨span, r, hspan, rfl, rfl⟩
        exact ⟨.inr ⟨span, hspan, rfl⟩, r, rfl⟩
      · rintro ⟨hspan | ⟨span, hspan, rfl⟩, r, hr⟩
        · -- a span does not begin with the sign
          cases v with
          | nil => exact absurd rfl (IsAmount.ne_nil (.inl hspan))
          | cons d v =>
            obtain ⟨rfl, -⟩ := List.cons.inj hr
            exact absurd List.mem_cons_self (hminus hspan)
        · exact ⟨span, r, hspan, (List.cons.inj hr).2.symm, rfl⟩
    · rw [relativeTime?_of_ne hc, signedAmount?_eq_some_iff]
      constructor
      · rintro ⟨span, r, hspan, hr, rfl⟩
        exact ⟨.inl hspan, r, hr.symm⟩
      · rintro ⟨hspan | ⟨span, -, rfl⟩, r, hr⟩
        · exact ⟨v, r, hspan, hr.symm, rfl⟩
        · exact absurd (List.cons.inj hr).1.symm hc

theorem relativeTime?_append_blank {b : Text} (hb : OpensBlank b) (t : Text) :
    relativeTime? (t ++ b) = relativeTime? t := by
  cases b with
  | nil => rw [List.append_nil]
  | cons c b =>
    have hstart : ∀ {v : Text}, IsAmount v → (v <+: t ++ c :: b ↔ v <+: t) := fun hv =>
      isPrefix_append_cons fun hc => nomatch (isInk_of_isBlank (hb c rfl)).symm.trans (hv.ink c hc)
    refine Option.ext fun v => ?_
    rw [relativeTime?_eq_some_iff, relativeTime?_eq_some_iff]
    exact and_congr_right hstart

theorem quotedTime?_of_ne {c : CodePoint} (hc : c ≠ '"') (t : Text) :
    quotedTime? (c :: t) = none := by
  unfold quotedTime?
  split
  · rename_i heq
    exact absurd (List.cons.inj heq).1 hc
  · rfl

theorem bne_quote_of_not_mem {t : Text} (h : .char '"' ∉ t) : ∀ c ∈ t, (c != '"') = true := by
  intro c hc
  rw [bne_iff_ne]
  rintro rfl
  exact h hc

theorem unquote_of_not_mem {t : Text} (h : .char '"' ∉ t) : unquote t = t :=
  List.filter_eq_self.mpr (bne_quote_of_not_mem h)

/-- A quote that is not closed gives no time. -/
theorem quotedTime?_of_not_mem {t : Text} (h : .char '"' ∉ t) :
    quotedTime? (.char '"' :: t) = none := by
  have hdrop : (t ++ []).dropWhile (· != CodePoint.char '"') = [] :=
    List.dropWhile_append_of_pos (bne_quote_of_not_mem h)
  rw [List.append_nil] at hdrop
  simp only [quotedTime?, hdrop]
  split
  · rename_i hcons
    cases hcons
  · rfl

/-- A quoted time ends with its quote, whatever follows; it is not empty. -/
theorem quotedTime?_of_quote {u : Text} (h : .char '"' ∉ u) (v : Text) :
    quotedTime? (.char '"' :: (u ++ .char '"' :: v)) =
      if u = [] then none else some (.char '"' :: (u ++ [.char '"'])) := by
  have hu := bne_quote_of_not_mem h
  have htake : (u ++ .char '"' :: v).takeWhile (· != CodePoint.char '"') = u ++ [] :=
    List.takeWhile_append_of_pos hu
  have hdrop : (u ++ .char '"' :: v).dropWhile (· != CodePoint.char '"') = .char '"' :: v :=
    List.dropWhile_append_of_pos hu
  simp only [quotedTime?, htake, hdrop, List.append_nil]
  cases u <;> rfl

/-- A blank opens no time, so a scan goes on after it. -/
theorem earliestFrom_cons_blank {c : CodePoint} (hc : isBlank c) (inWord : Bool) (t : Text) :
    earliestFrom inWord (c :: t) = earliestFrom false t := by
  have hkey : dropStart? "earliest=" (c :: t) = none := by
    refine if_neg ?_
    rintro rfl
    cases hc
  rw [earliestFrom]
  simp only [hkey, ite_self, isWord_of_isBlank hc]

section

variable {b : Text} (hb : ∀ c ∈ b, isBlank c)

include hb

theorem quotedTime?_append_blank (c : CodePoint) (t : Text) :
    quotedTime? (c :: (t ++ b)) = quotedTime? (c :: t) := by
  have hquote : .char '"' ∉ b := fun h => nomatch hb _ h
  by_cases hc : c = '"'
  · subst hc
    by_cases hmem : .char '"' ∈ t
    · obtain ⟨u, v, rfl, hu⟩ := List.eq_append_cons_of_mem hmem
      rw [List.append_assoc, List.cons_append]
      exact (quotedTime?_of_quote hu (v ++ b)).trans (quotedTime?_of_quote hu v).symm
    · rw [quotedTime?_of_not_mem hmem, quotedTime?_of_not_mem]
      exact fun h => (List.mem_append.mp h).elim hmem hquote
  · rw [quotedTime?_of_ne hc, quotedTime?_of_ne hc]

theorem timeValue?_append_blank (t : Text) : timeValue? (t ++ b) = timeValue? t := by
  unfold timeValue?
  rw [takeWhile_append_blank (.of_blank hb) fun c => isInk_of_isBlank]
  cases t with
  | nil => rfl
  | cons c t =>
    rw [relativeTime?_append_blank (.of_blank hb), List.cons_append, quotedTime?_append_blank hb]

/-! ### The head -/

theorem earliestFrom_of_blank (inWord : Bool) : earliestFrom inWord b = none := by
  induction b generalizing inWord with
  | nil => rfl
  | cons c b ih =>
    obtain ⟨hc, hb⟩ := List.forall_mem_cons.mp hb
    rw [earliestFrom_cons_blank hc, ih hb]

theorem earliestFrom_append_blank (inWord : Bool) (t : Text) :
    earliestFrom inWord (t ++ b) = earliestFrom inWord t := by
  induction t generalizing inWord with
  | nil => exact earliestFrom_of_blank hb inWord
  | cons c t ih =>
    have hink : ∀ k ∈ ("earliest=" : Text), isInk k := List.all_eq_true.mp rfl
    have hkey := dropStart?_append_blank (.of_blank hb) hink (c :: t)
    rw [List.cons_append] at hkey ⊢
    unfold earliestFrom
    rw [hkey, ih]
    cases inWord with
    | true => rfl
    | false =>
      cases dropStart? "earliest=" (c :: t) with
      | none => rfl
      | some after => exact congrArg (Option.or · _) (timeValue?_append_blank hb after)

/-- **A search head means the same with blanks after it.** -/
theorem SearchHead.ofText_append_blank (t : Text) :
    SearchHead.ofText (t ++ b) = SearchHead.ofText t := by
  have hwords : words (t ++ b) = words t := words_append_of_blank hb t
  have hfree : words (freeText (t ++ b)) = words (freeText t) := by
    simp only [freeText, words_strip, words_mapWords, hwords]
  simp only [SearchHead.ofText, fieldValue, hwords, hfree, earliestFrom_append_blank hb]

end

theorem SearchHead.ofText_stripEnd (t : Text) :
    SearchHead.ofText (stripEnd t) = SearchHead.ofText t := by
  obtain ⟨b, hb, ht⟩ := stripEnd_append_rest t
  rw [← ofText_append_blank hb (stripEnd t), ht]

end TwinQuery
