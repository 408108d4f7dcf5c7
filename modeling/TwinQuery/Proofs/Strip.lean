/-
# Stripping blanks

`strip` takes the blanks off both ends of a text and leaves everything between
the first and the last other character as it is. So a text is either blank
throughout, and stripped to nothing, or it can be cut at a character that is
not blank: then the left part is stripped at its start and the right part at
its end (`strip_append_ink`). The laws of `strip` follow from these two cases.

Key theorems: `Text.blank_or_ink`, `Text.strip_append_ink`,
`Text.strip_eq_nil_iff`, `Text.strip_strip`, `Text.strip_append_append`.
-/
import TwinQuery.Text.Blank

namespace TwinQuery

theorem isInk_iff (c : CodePoint) : isInk c ↔ isBlank c = false := by
  simp [isInk]

theorem isBlank_of_not_isInk {c : CodePoint} (h : ¬ isInk c) : isBlank c := by
  simpa [isInk] using h

/-- A number in one of the ranges lies between the ends of one of them. -/
theorem exists_range_of_inRanges : ∀ {ranges : List (Nat × Nat)} {n : Nat},
    inRanges ranges n → ∃ r ∈ ranges, r.1 ≤ n ∧ n ≤ r.2
  | [], _, h => by simp [inRanges] at h
  | (low, high) :: ranges, n, h => by
    unfold inRanges at h
    split at h
    · cases h
    · rename_i hlow
      rcases Bool.or_eq_true .. ▸ h with hhigh | hrest
      · exact ⟨(low, high), List.mem_cons_self, Nat.le_of_not_lt hlow, by simpa using hhigh⟩
      · obtain ⟨r, hr, hn⟩ := exists_range_of_inRanges hrest
        exact ⟨r, List.mem_cons_of_mem _ hr, hn⟩

/-- Every line break is a blank. -/
theorem isBlank_of_isLineBreak {c : CodePoint} (h : isLineBreak c) : isBlank c := by
  obtain ⟨r, hr, hc⟩ := exists_range_of_inRanges h
  simp only [lineBreakRanges, List.mem_cons, List.not_mem_nil, or_false] at hr
  simp only [isBlank, inRanges, blankRanges]
  rcases hr with rfl | rfl | rfl | rfl <;> grind

theorem isLineBreak_of_isInk {c : CodePoint} (h : isInk c) : isLineBreak c = false := by
  rw [isInk_iff] at h
  cases hc : isLineBreak c with
  | false => rfl
  | true => rw [isBlank_of_isLineBreak hc] at h; cases h

namespace Text

/-- A text is blank throughout, or one of its characters is not. -/
theorem blank_or_ink (t : Text) :
    (∀ c ∈ t, isBlank c) ∨ ∃ a c b, isInk c ∧ t = a ++ c :: b := by
  by_cases h : ∃ c ∈ t, isInk c
  · obtain ⟨c, hmem, hc⟩ := h
    obtain ⟨a, b, rfl⟩ := List.append_of_mem hmem
    exact Or.inr ⟨a, c, b, hc, rfl⟩
  · exact Or.inl fun c hmem => isBlank_of_not_isInk fun hc => h ⟨c, hmem, hc⟩

/-! ### The start -/

theorem stripStart_cons_blank {c : CodePoint} (hc : isBlank c) (t : Text) :
    stripStart (c :: t) = stripStart t := by
  simp [stripStart, hc]

theorem stripStart_cons_ink {c : CodePoint} (hc : isInk c) (t : Text) :
    stripStart (c :: t) = c :: t := by
  rw [isInk_iff] at hc
  simp [stripStart, hc]

theorem stripStart_of_blank : ∀ {t : Text}, (∀ c ∈ t, isBlank c) → stripStart t = []
  | [], _ => rfl
  | c :: t, h => by
    rw [stripStart_cons_blank (h c List.mem_cons_self)]
    exact stripStart_of_blank fun d hd => h d (List.mem_cons_of_mem _ hd)

theorem stripStart_append_ink {c : CodePoint} (hc : isInk c) (b : Text) :
    ∀ a : Text, stripStart (a ++ c :: b) = stripStart a ++ c :: b
  | [] => stripStart_cons_ink hc b
  | d :: a => by
    by_cases hd : isInk d
    · rw [List.cons_append, stripStart_cons_ink hd, stripStart_cons_ink hd, List.cons_append]
    · have hd := isBlank_of_not_isInk hd
      rw [List.cons_append, stripStart_cons_blank hd, stripStart_cons_blank hd,
        stripStart_append_ink hc b a]

theorem stripStart_subset (t : Text) : stripStart t ⊆ t := List.dropWhile_subset _

theorem stripStart_stripStart : ∀ t : Text, stripStart (stripStart t) = stripStart t
  | [] => rfl
  | c :: t => by
    by_cases hc : isInk c
    · rw [stripStart_cons_ink hc, stripStart_cons_ink hc]
    · rw [stripStart_cons_blank (isBlank_of_not_isInk hc), stripStart_stripStart t]

/-! ### The end -/

theorem stripEnd_of_blank : ∀ {t : Text}, (∀ c ∈ t, isBlank c) → stripEnd t = []
  | [], _ => rfl
  | c :: t, h => by
    have ht := stripEnd_of_blank fun d hd => h d (List.mem_cons_of_mem _ hd)
    simp [stripEnd, ht, h c List.mem_cons_self]

theorem stripEnd_append_ink {c : CodePoint} (hc : isInk c) (b : Text) :
    ∀ a : Text, stripEnd (a ++ c :: b) = a ++ c :: stripEnd b
  | [] => by
    rw [isInk_iff] at hc
    simp only [List.nil_append, stripEnd, hc]
    cases stripEnd b <;> rfl
  | d :: a => by
    rw [List.cons_append, stripEnd, stripEnd_append_ink hc b a]
    cases a <;> rfl

theorem stripEnd_append_blank {b : Text} (hb : ∀ c ∈ b, isBlank c) :
    ∀ t : Text, stripEnd (t ++ b) = stripEnd t
  | [] => stripEnd_of_blank hb
  | c :: t => by
    rw [List.cons_append, stripEnd, stripEnd, stripEnd_append_blank hb t]

/-- What is taken off the end of a text is blank. -/
theorem stripEnd_append_rest : ∀ t : Text, ∃ b : Text, (∀ c ∈ b, isBlank c) ∧ stripEnd t ++ b = t
  | [] => ⟨[], by simp, rfl⟩
  | c :: t => by
    obtain ⟨b, hb, ht⟩ := stripEnd_append_rest t
    unfold stripEnd
    cases hs : stripEnd t with
    | nil =>
      rw [hs, List.nil_append] at ht
      subst ht
      by_cases hc : isBlank c
      · exact ⟨c :: b, by simpa [hc] using hb, by simp [hc]⟩
      · exact ⟨b, hb, by simp [hc]⟩
    | cons d kept => exact ⟨b, hb, by rw [hs] at ht; simpa using ht⟩

theorem stripEnd_subset (t : Text) : stripEnd t ⊆ t := by
  obtain ⟨b, -, ht⟩ := stripEnd_append_rest t
  calc stripEnd t ⊆ stripEnd t ++ b := List.subset_append_left _ _
    _ = t := ht

theorem stripEnd_stripEnd (t : Text) : stripEnd (stripEnd t) = stripEnd t := by
  obtain ⟨b, hb, ht⟩ := stripEnd_append_rest t
  calc stripEnd (stripEnd t) = stripEnd (stripEnd t ++ b) := (stripEnd_append_blank hb _).symm
    _ = stripEnd t := by rw [ht]

/-! ### Both ends -/

/-- **Stripping around a character that stays.** -/
theorem strip_append_ink {c : CodePoint} (hc : isInk c) (a b : Text) :
    strip (a ++ c :: b) = stripStart a ++ c :: stripEnd b := by
  rw [strip, stripStart_append_ink hc, stripEnd_append_ink hc]

theorem strip_of_blank {t : Text} (h : ∀ c ∈ t, isBlank c) : strip t = [] := by
  rw [strip, stripStart_of_blank h, stripEnd]

/-- Only blank texts are stripped to nothing. -/
theorem strip_eq_nil_iff (t : Text) : strip t = [] ↔ ∀ c ∈ t, isBlank c := by
  refine ⟨fun h => ?_, strip_of_blank⟩
  rcases blank_or_ink t with hb | ⟨a, c, b, hc, rfl⟩
  · exact hb
  · rw [strip_append_ink hc] at h
    simp at h

theorem strip_subset (t : Text) : strip t ⊆ t :=
  List.Subset.trans (stripEnd_subset _) (stripStart_subset t)

/-- The two ends may be stripped in either order. -/
theorem stripStart_stripEnd (t : Text) : stripStart (stripEnd t) = strip t := by
  rcases blank_or_ink t with h | ⟨a, c, b, hc, rfl⟩
  · rw [stripEnd_of_blank h, strip_of_blank h]; rfl
  · rw [stripEnd_append_ink hc, stripStart_append_ink hc, strip_append_ink hc]

@[simp] theorem stripStart_strip (t : Text) : stripStart (strip t) = strip t := by
  rw [← stripStart_stripEnd, stripStart_stripStart]

@[simp] theorem stripEnd_strip (t : Text) : stripEnd (strip t) = strip t := stripEnd_stripEnd _

@[simp] theorem strip_strip (t : Text) : strip (strip t) = strip t := by
  rw [strip, stripStart_strip, stripEnd_strip]

@[simp] theorem strip_stripStart (t : Text) : strip (stripStart t) = strip t := by
  rw [strip, stripStart_stripStart, strip]

@[simp] theorem strip_stripEnd (t : Text) : strip (stripEnd t) = strip t := by
  rw [strip, stripStart_stripEnd, stripEnd_strip]

theorem strip_cons_blank {c : CodePoint} (hc : isBlank c) (t : Text) :
    strip (c :: t) = strip t := by
  rw [strip, stripStart_cons_blank hc, strip]

theorem strip_append_blank {b : Text} (hb : ∀ c ∈ b, isBlank c) (t : Text) :
    strip (t ++ b) = strip t := by
  rw [← stripStart_stripEnd, stripEnd_append_blank hb, stripStart_stripEnd]

theorem stripStart_of_stripped {t : Text} (h : strip t = t) : stripStart t = t := by
  rw [← h, stripStart_strip]

theorem stripEnd_of_stripped {t : Text} (h : strip t = t) : stripEnd t = t := by
  rw [← h, stripEnd_strip]

theorem strip_of_ink : ∀ {t : Text}, (∀ c ∈ t, isInk c) → strip t = t
  | [], _ => rfl
  | c :: t, h => by
    have ht : strip t = t := strip_of_ink fun d hd => h d (List.mem_cons_of_mem _ hd)
    calc strip (c :: t) = c :: stripEnd t := strip_append_ink (h c List.mem_cons_self) [] t
      _ = c :: t := by rw [stripEnd_of_stripped ht]

theorem stripStart_append {a : Text} (ha : strip a ≠ []) (b : Text) :
    stripStart (a ++ b) = stripStart a ++ b := by
  rcases blank_or_ink a with h | ⟨a₁, c, a₂, hc, rfl⟩
  · exact absurd (strip_of_blank h) ha
  · rw [List.append_assoc, List.cons_append, stripStart_append_ink hc, stripStart_append_ink hc,
      List.append_assoc, List.cons_append]

theorem stripEnd_append {b : Text} (hb : strip b ≠ []) (a : Text) :
    stripEnd (a ++ b) = a ++ stripEnd b := by
  rcases blank_or_ink b with h | ⟨b₁, c, b₂, hc, rfl⟩
  · exact absurd (strip_of_blank h) hb
  · rw [← List.append_assoc, stripEnd_append_ink hc, stripEnd_append_ink hc, List.append_assoc]

/-- Joined texts end as the last of them. -/
theorem stripEnd_joinWith (s : Text) : ∀ {ts : List Text}, ts ≠ [] →
    (∀ t ∈ ts, strip t ≠ [] ∧ stripEnd t = t) →
      strip (joinWith s ts) ≠ [] ∧ stripEnd (joinWith s ts) = joinWith s ts
  | [], hne, _ => absurd rfl hne
  | [t], _, h => h t List.mem_cons_self
  | t :: u :: ts, _, h => by
    obtain ⟨hrest, hend⟩ := stripEnd_joinWith s (List.cons_ne_nil u ts) fun v hv =>
      h v (List.mem_cons_of_mem _ hv)
    rw [joinWith, stripEnd_append hrest, hend]
    refine ⟨fun hnil => hrest ?_, rfl⟩
    rw [strip_eq_nil_iff] at hnil ⊢
    exact fun c hc => hnil c (List.mem_append_right _ hc)

/-- Between two texts that are not blank nothing is stripped. -/
theorem strip_append_append {a b : Text} (ha : strip a ≠ []) (hb : strip b ≠ []) (m : Text) :
    strip (a ++ (m ++ b)) = stripStart a ++ (m ++ stripEnd b) := by
  rw [strip, stripStart_append ha, ← List.append_assoc, stripEnd_append hb, List.append_assoc]

end Text

end TwinQuery
