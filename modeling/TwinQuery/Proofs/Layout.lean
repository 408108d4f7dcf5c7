/-
# Layout does not matter

A query is read after its lines are stripped and joined, and then cut at its
pipes. The two may be done in the other order: the stages of a query are the
pieces between its pipes, each with its own lines stripped and joined
(`map_strip_cutAt_joinLines`).

The proofs cut a text at its line breaks or at its pipes, by one induction
(`Text.cutInduction`). At a line break two lines meet, with a blank between
them when neither is empty (`joinLines_append_break`); around any other
character that is not blank the joined lines fall apart into the joined lines
of the two sides, up to blanks (`joinLines_append_ink`).

Key definitions: `Text.OneLine`, `Text.beside`.
Key theorems: `joinLines_append_break`, `joinLines_append_ink`,
`map_strip_cutAt_joinLines`.
-/
import TwinQuery.Pipeline
import TwinQuery.Proofs.Strip

namespace TwinQuery

namespace Text

/-- Induction over the segments of a text between the characters that `p`
holds of. -/
theorem cutInduction (p : CodePoint → Bool) {motive : Text → Prop}
    (whole : ∀ t : Text, (∀ c ∈ t, p c = false) → motive t)
    (cut : ∀ (a : Text) (c : CodePoint) (b : Text), (∀ d ∈ a, p d = false) → p c →
      motive b → motive (a ++ c :: b)) (t : Text) : motive t := by
  -- `a` holds the characters of the segment that is being read
  have extended : ∀ (b a : Text), (∀ d ∈ a, p d = false) → motive (a ++ b) := by
    intro b
    induction b with
    | nil => intro a ha; rw [List.append_nil]; exact whole a ha
    | cons c b ih =>
      intro a ha
      by_cases hc : p c
      · exact cut a c b ha hc (ih [] (by simp))
      · have hac := ih (a ++ [c]) fun d hd => by
          rcases List.mem_append.mp hd with hd | hd
          · exact ha d hd
          · rw [List.mem_singleton.mp hd]; simpa using hc
        simpa using hac
  exact extended t [] (by simp)

/-! ### Cutting at a mark -/

theorem cutAt_ne_nil (m : CodePoint) (t : Text) : cutAt m t ≠ [] := by
  cases t with
  | nil => simp [cutAt]
  | cons c t =>
    unfold cutAt
    split
    · simp
    · split <;> simp

theorem cutAt_cons_of_ne {m c : CodePoint} (hc : c ≠ m) {t piece : Text} {pieces : List Text}
    (h : cutAt m t = piece :: pieces) : cutAt m (c :: t) = (c :: piece) :: pieces := by
  simp [cutAt, hc, h]

theorem cutAt_append_mark (m : CodePoint) (b : Text) :
    ∀ a : Text, cutAt m (a ++ m :: b) = cutAt m a ++ cutAt m b
  | [] => by simp [cutAt]
  | c :: a => by
    have ih := cutAt_append_mark m b a
    by_cases hc : c = m
    · simp [cutAt, hc, ih]
    · obtain ⟨piece, pieces, hp⟩ := List.exists_cons_of_ne_nil (cutAt_ne_nil m a)
      rw [hp, List.cons_append] at ih
      rw [List.cons_append, cutAt_cons_of_ne hc ih, cutAt_cons_of_ne hc hp, List.cons_append]

theorem cutAt_of_not_mem {m : CodePoint} : ∀ {t : Text}, m ∉ t → cutAt m t = [t]
  | [], _ => rfl
  | c :: t, h => by
    have hc : c ≠ m := fun hc => h (hc ▸ List.mem_cons_self)
    exact cutAt_cons_of_ne hc (cutAt_of_not_mem fun hm => h (List.mem_cons_of_mem _ hm))

/-- The first mark of a text divides it in one way only. -/
theorem eq_of_append_mark_eq {m : CodePoint} {a b r s : Text} (ha : m ∉ a) (hb : m ∉ b)
    (h : a ++ m :: r = b ++ m :: s) : a = b ∧ r = s := by
  have hab : a = b := by
    have hcut := congrArg (cutAt m) h
    rw [cutAt_append_mark, cutAt_of_not_mem ha, cutAt_append_mark, cutAt_of_not_mem hb] at hcut
    exact (List.cons.inj hcut).1
  subst hab
  exact ⟨rfl, (List.cons.inj (List.append_cancel_left h)).2⟩

/-- Every piece is free of the mark and made of characters of the text. -/
theorem mem_cutAt {m : CodePoint} (t : Text) : ∀ piece ∈ cutAt m t, m ∉ piece ∧ piece ⊆ t := by
  induction t using cutInduction (· == m) with
  | whole t ht =>
    have hm : m ∉ t := fun hm => by simpa using ht m hm
    rw [cutAt_of_not_mem hm]
    intro piece hp
    rw [List.mem_singleton.mp hp]
    exact ⟨hm, List.Subset.refl t⟩
  | cut a c b ha hc ih =>
    have hm : m ∉ a := fun hm => by simpa using ha m hm
    obtain rfl : c = m := by simpa using hc
    rw [cutAt_append_mark, cutAt_of_not_mem hm]
    intro piece hp
    rcases List.mem_cons.mp hp with rfl | hp
    · exact ⟨hm, List.subset_append_left _ _⟩
    · obtain ⟨hfree, hsub⟩ := ih piece hp
      exact ⟨hfree, fun d hd => List.mem_append_right _ (List.mem_cons_of_mem _ (hsub hd))⟩

/-! ### Lines -/

/-- A text without line breaks. -/
def OneLine (t : Text) : Prop := ∀ c ∈ t, isLineBreak c = false

-- the instance is named: another one decides "for every character" by trying them all
instance (t : Text) : Decidable t.OneLine := List.decidableBAll _ t

theorem lines_cons_of_ne {c : CodePoint} (hc : isLineBreak c = false) {t line : Text}
    {more : List Text}
    (h : lines t = line :: more) : lines (c :: t) = (c :: line) :: more := by
  have hcr : c ≠ '\r' := by rintro rfl; cases hc
  rw [lines]
  · simp [hc, h]
  · intro rest h'
    exact absurd h' hcr

/-- A line break ends an empty line, alone or together with a line feed. -/
theorem lines_cons_break {c : CodePoint} (hc : isLineBreak c) (t : Text) :
    lines (c :: t) = [] :: lines t ∨ ∃ r, t = .char '\n' :: r ∧ lines (c :: t) = [] :: lines r := by
  by_cases h : ∃ r, c = '\r' ∧ t = .char '\n' :: r
  · obtain ⟨r, rfl, rfl⟩ := h
    exact Or.inr ⟨r, rfl, by rw [lines]⟩
  · refine Or.inl ?_
    rw [lines]
    · simp [hc]
    · intro r h₁ h₂
      exact h ⟨r, h₁, h₂⟩

theorem lines_append {l : Text} (hl : OneLine l) {r line : Text} {more : List Text}
    (h : lines r = line :: more) : lines (l ++ r) = (l ++ line) :: more := by
  induction l with
  | nil => exact h
  | cons c l ih =>
    have ih := ih fun d hd => hl d (List.mem_cons_of_mem _ hd)
    exact lines_cons_of_ne (hl c List.mem_cons_self) ih

theorem lines_of_oneLine {c : CodePoint} {l : Text} (hl : OneLine (c :: l)) :
    lines (c :: l) = [c :: l] := by
  induction l generalizing c with
  | nil => simp [lines, hl c List.mem_cons_self]
  | cons d l ih =>
    exact lines_cons_of_ne (hl c List.mem_cons_self) (ih fun e he => hl e (List.mem_cons_of_mem _ he))

/-- Two stripped lines in one, with a blank between them when neither is
empty. -/
def beside (a b : Text) : Text := if a = [] then b else if b = [] then a else a ++ .char ' ' :: b

@[simp] theorem beside_nil_left (b : Text) : beside [] b = b := by simp [beside]

@[simp] theorem beside_nil_right (a : Text) : beside a [] = a := by
  by_cases h : a = [] <;> simp [beside, h]

theorem beside_of_ne_nil {a b : Text} (ha : a ≠ []) (hb : b ≠ []) :
    beside a b = a ++ .char ' ' :: b := by
  simp [beside, ha, hb]

theorem joinWith_cons (s t : Text) {ts : List Text} (h : ts ≠ []) :
    joinWith s (t :: ts) = t ++ s ++ joinWith s ts := by
  cases ts with
  | nil => exact absurd rfl h
  | cons u us => rfl

theorem joinWith_eq_flatMap (s : Text) : ∀ (t : Text) (ts : List Text),
    joinWith s (t :: ts) = t ++ ts.flatMap (s ++ ·)
  | t, [] => (List.append_nil t).symm
  | t, u :: ts => by
    rw [joinWith, joinWith_eq_flatMap s u ts, List.flatMap_cons, List.append_assoc, List.append_assoc]

end Text

open Text

/-! ### Joining the lines -/

theorem joinLines_nil : joinLines [] = [] := rfl

theorem joinWith_ne_nil {ts : List Text} (hts : ts ≠ []) (h : ∀ t ∈ ts, t ≠ []) (s : Text) :
    joinWith s ts ≠ [] := by
  cases ts with
  | nil => exact absurd rfl hts
  | cons t ts =>
    have ht := h t List.mem_cons_self
    cases ts <;> simp [joinWith, ht]

/-- A further line goes beside the lines after it. -/
theorem joinWith_filter_cons (l : Text) (ls : List Text) :
    joinWith " " (((l :: ls).map strip).filter fun line => !line.isEmpty) =
      beside (strip l) (joinWith " " ((ls.map strip).filter fun line => !line.isEmpty)) := by
  rw [List.map_cons]
  generalize hrest : (ls.map strip).filter (fun line => !line.isEmpty) = rest
  by_cases hl : strip l = []
  · simp [hl, hrest]
  · have hcons : ((strip l :: ls.map strip).filter fun line => !line.isEmpty) = strip l :: rest := by
      rw [List.filter_cons_of_pos (by simpa using hl), hrest]
    rw [hcons]
    by_cases hr : rest = []
    · simp [hr, joinWith]
    · have hne : joinWith " " rest ≠ [] := by
        refine joinWith_ne_nil hr (fun t ht => ?_) _
        rw [← hrest] at ht
        simpa using (List.mem_filter.mp ht).2
      rw [joinWith_cons _ _ hr, beside_of_ne_nil hl hne]
      simp [ofString]

theorem joinLines_of_oneLine {t : Text} (ht : OneLine t) : joinLines t = strip t := by
  cases t with
  | nil => rfl
  | cons c t =>
    unfold joinLines
    rw [lines_of_oneLine ht, joinWith_filter_cons]
    simp [joinWith]

/-- **A line break is where two lines meet.** -/
theorem joinLines_append_break {l : Text} (hl : OneLine l) {c : CodePoint} (hc : isLineBreak c)
    (r : Text) : joinLines (l ++ c :: r) = beside (strip l) (joinLines r) := by
  have step : ∀ u : Text, lines (c :: r) = [] :: lines u →
      joinLines (l ++ c :: r) = beside (strip l) (joinLines u) := by
    intro u hu
    unfold joinLines
    rw [lines_append hl hu, joinWith_filter_cons, List.append_nil]
  rcases lines_cons_break hc r with h | ⟨u, rfl, h⟩
  · exact step r h
  · -- the break is the first half of a pair; its second half ends no further line
    have hu : joinLines ('\n' :: u) = joinLines u := by
      unfold joinLines
      rw [show lines ('\n' :: u) = [] :: lines u from rfl, joinWith_filter_cons]
      rfl
    rw [step u h, hu]

theorem strip_beside {a b : Text} (ha : strip a = a) (hb : strip b = b) :
    strip (beside a b) = beside a b := by
  by_cases hane : a = []
  · simpa [hane] using hb
  by_cases hbne : b = []
  · simpa [hbne] using ha
  · have hstrip := strip_append_append (ha.symm ▸ hane) (hb.symm ▸ hbne) [' ']
    rw [stripStart_of_stripped ha, stripEnd_of_stripped hb] at hstrip
    rw [beside_of_ne_nil hane hbne]
    exact hstrip

@[simp] theorem strip_joinLines (t : Text) : strip (joinLines t) = joinLines t := by
  induction t using cutInduction isLineBreak with
  | whole t ht => rw [joinLines_of_oneLine ht, strip_strip]
  | cut l c r hl hc ih =>
    rw [joinLines_append_break hl hc]
    exact strip_beside (strip_strip l) ih

theorem mem_beside {a b : Text} {c : CodePoint} (h : c ∈ beside a b) : c ∈ a ∨ c = ' ' ∨ c ∈ b := by
  unfold beside at h
  split at h
  · exact Or.inr (Or.inr h)
  · split at h
    · exact Or.inl h
    · simpa using h

/-- The joined lines are made of the characters of the lines and of blanks. -/
theorem joinLines_subset (t : Text) : joinLines t ⊆ ' ' :: t := by
  induction t using cutInduction isLineBreak with
  | whole t ht =>
    rw [joinLines_of_oneLine ht]
    exact fun d hd => List.mem_cons_of_mem _ (strip_subset t hd)
  | cut l c r hl hc ih =>
    rw [joinLines_append_break hl hc]
    intro d hd
    rcases mem_beside hd with hd | rfl | hd
    · exact List.mem_cons_of_mem _ (List.mem_append_left _ (strip_subset l hd))
    · exact List.mem_cons_self
    · rcases List.mem_cons.mp (ih hd) with rfl | hd
      · exact List.mem_cons_self
      · exact List.mem_cons_of_mem _ (List.mem_append_right _ (List.mem_cons_of_mem _ hd))

theorem oneLine_joinLines (t : Text) : OneLine (joinLines t) := by
  induction t using cutInduction isLineBreak with
  | whole t ht =>
    rw [joinLines_of_oneLine ht]
    exact fun d hd => ht d (strip_subset t hd)
  | cut l c r hl hc ih =>
    rw [joinLines_append_break hl hc]
    intro d hd
    rcases mem_beside hd with hd | rfl | hd
    · exact hl d (strip_subset l hd)
    · rfl
    · exact ih d hd

theorem joinLines_append_blank {c : CodePoint} (hc : isBlank c) (t : Text) :
    joinLines (t ++ [c]) = joinLines t := by
  induction t using cutInduction isLineBreak with
  | whole t ht =>
    by_cases hb : isLineBreak c
    · rw [joinLines_append_break ht hb, joinLines_of_oneLine ht]
      simp [joinLines_nil]
    · have htc : OneLine (t ++ [c]) := by
        intro d hd
        rcases List.mem_append.mp hd with hd | hd
        · exact ht d hd
        · rw [List.mem_singleton.mp hd]; simpa using hb
      rw [joinLines_of_oneLine htc, joinLines_of_oneLine ht, strip_append_blank (by simpa using hc)]
  | cut l b r hl hb ih =>
    rw [List.append_assoc, List.cons_append, joinLines_append_break hl hb, ih,
      joinLines_append_break hl hb]

theorem joinLines_cons_blank {c : CodePoint} (hc : isBlank c) (t : Text) :
    joinLines (c :: t) = joinLines t := by
  by_cases hb : isLineBreak c
  · have h := joinLines_append_break (l := []) (by simp [OneLine]) hb t
    rw [show strip [] = [] from rfl, beside_nil_left] at h
    exact h
  have hcl : ∀ {l : Text}, OneLine l → OneLine (c :: l) := fun hl d hd => by
    rcases List.mem_cons.mp hd with rfl | hd
    · simpa using hb
    · exact hl d hd
  induction t using cutInduction isLineBreak with
  | whole t ht => rw [joinLines_of_oneLine (hcl ht), strip_cons_blank hc, joinLines_of_oneLine ht]
  | cut l d r hl hd _ =>
    rw [← List.cons_append, joinLines_append_break (hcl hl) hd, strip_cons_blank hc,
      joinLines_append_break hl hd]

/-- A blank between two texts that are stripped on its sides. -/
theorem strip_append_space {a b : Text} (ha : stripEnd a = a) (hb : stripStart b = b) :
    strip (a ++ .char ' ' :: b) = beside (strip a) (strip b) := by
  by_cases hane : strip a = []
  · have hnil : a = [] := by rw [← ha, stripEnd_of_blank ((strip_eq_nil_iff a).mp hane)]
    rw [hnil, List.nil_append, strip_cons_blank rfl]
    exact (beside_nil_left _).symm
  by_cases hbne : strip b = []
  · have hnil : b = [] := by rw [← hb, stripStart_of_blank ((strip_eq_nil_iff b).mp hbne)]
    rw [hbne, hnil, beside_nil_right, strip_append_blank (List.forall_mem_singleton.mpr rfl)]
  · have hstart : strip a = stripStart a := by rw [← stripStart_stripEnd, ha]
    have hend : strip b = stripEnd b := by rw [strip, hb]
    rw [beside_of_ne_nil hane hbne, hstart, hend]
    exact strip_append_append hane hbne [' ']

/-- **Joining the lines around a character that stays.** What stands before
it and after it are the joined lines of the two parts, up to blanks. -/
theorem joinLines_append_ink {c : CodePoint} (hc : isInk c) (p r : Text) :
    ∃ x y : Text, joinLines (p ++ c :: r) = x ++ c :: y ∧ stripStart x = x ∧
      strip x = joinLines p ∧ strip y = joinLines r := by
  induction p using cutInduction isLineBreak with
  | whole p hp =>
    have hpc : ∀ {l : Text}, OneLine l → OneLine (p ++ c :: l) := fun hl d hd => by
      rcases List.mem_append.mp hd with hd | hd
      · exact hp d hd
      · rcases List.mem_cons.mp hd with rfl | hd
        · exact isLineBreak_of_isInk hc
        · exact hl d hd
    -- the last line of `p`, the character and the first line of `r` are one line
    induction r using cutInduction isLineBreak with
    | whole r hr =>
      refine ⟨stripStart p, stripEnd r, ?_, stripStart_stripStart p, ?_, ?_⟩
      · rw [joinLines_of_oneLine (hpc hr), strip_append_ink hc]
      · rw [strip_stripStart, joinLines_of_oneLine hp]
      · rw [strip_stripEnd, joinLines_of_oneLine hr]
    | cut l d r hl hd _ =>
      have hjoin : joinLines (p ++ c :: (l ++ d :: r)) =
          beside (stripStart p ++ c :: stripEnd l) (joinLines r) := by
        have h := joinLines_append_break (hpc hl) hd r
        rw [strip_append_ink hc, List.append_assoc, List.cons_append] at h
        exact h
      rw [hjoin, joinLines_append_break hl hd]
      by_cases hr : joinLines r = []
      · refine ⟨stripStart p, stripEnd l, ?_, stripStart_stripStart p, ?_, ?_⟩
        · rw [hr, beside_nil_right]
        · rw [strip_stripStart, joinLines_of_oneLine hp]
        · rw [hr, strip_stripEnd, beside_nil_right]
      · refine ⟨stripStart p, stripEnd l ++ .char ' ' :: joinLines r, ?_,
          stripStart_stripStart p, ?_, ?_⟩
        · rw [beside_of_ne_nil (by simp) hr, List.append_assoc, List.cons_append]
        · rw [strip_stripStart, joinLines_of_oneLine hp]
        · rw [strip_append_space (stripEnd_stripEnd l)
            (stripStart_of_stripped (strip_joinLines r)), strip_stripEnd, strip_joinLines]
  | cut l d p hl hd ih =>
    obtain ⟨x, y, hxy, hx, hp, hr⟩ := ih
    rw [List.append_assoc, List.cons_append, joinLines_append_break hl hd, hxy,
      joinLines_append_break hl hd, ← hp]
    by_cases hle : strip l = []
    · exact ⟨x, y, by rw [hle, beside_nil_left], hx, by rw [hle, beside_nil_left], hr⟩
    · refine ⟨strip l ++ .char ' ' :: x, y, ?_, ?_, ?_, hr⟩
      · rw [beside_of_ne_nil hle (by simp), List.append_assoc, List.cons_append]
      · rw [stripStart_append (by rwa [strip_strip]), stripStart_strip]
      · rw [strip_append_space (stripEnd_strip l) hx, strip_strip]

/-! ### Cutting at the pipes -/

theorem isInk_pipe : isInk pipe := rfl

theorem map_strip_cutAt_stripEnd (t : Text) :
    (cutAt pipe (stripEnd t)).map strip = (cutAt pipe t).map strip := by
  induction t using cutInduction (· == pipe) with
  | whole t ht =>
    have hfree : pipe ∉ t := fun hm => by simpa using ht pipe hm
    rw [cutAt_of_not_mem hfree, cutAt_of_not_mem fun hm => hfree (stripEnd_subset t hm)]
    simp
  | cut a c b ha hc ih =>
    obtain rfl : c = pipe := by simpa using hc
    rw [stripEnd_append_ink isInk_pipe, cutAt_append_mark, cutAt_append_mark, List.map_append,
      List.map_append, ih]

theorem map_strip_cutAt_strip (t : Text) :
    (cutAt pipe (strip t)).map strip = (cutAt pipe t).map strip := by
  rw [strip, map_strip_cutAt_stripEnd]
  induction t with
  | nil => rfl
  | cons c t ih =>
    by_cases hc : isInk c
    · rw [stripStart_cons_ink hc]
    · have hc := isBlank_of_not_isInk hc
      have hne : c ≠ pipe := by rintro rfl; cases hc
      obtain ⟨piece, pieces, hp⟩ := List.exists_cons_of_ne_nil (cutAt_ne_nil pipe t)
      rw [stripStart_cons_blank hc, ih, hp, cutAt_cons_of_ne hne hp, List.map_cons, List.map_cons,
        strip_cons_blank hc]

/-- **Cutting at the pipes and joining the lines may be done in either
order.** -/
theorem map_strip_cutAt_joinLines (t : Text) :
    (cutAt pipe (joinLines t)).map strip = (cutAt pipe t).map joinLines := by
  have single : ∀ a : Text, pipe ∉ a →
      (cutAt pipe (joinLines a)).map strip = (cutAt pipe a).map joinLines := by
    intro a hfree
    have hjoin : pipe ∉ joinLines a := fun hm => by
      rcases List.mem_cons.mp (joinLines_subset a hm) with h | h
      · cases h
      · exact hfree h
    rw [cutAt_of_not_mem hfree, cutAt_of_not_mem hjoin, List.map_singleton, List.map_singleton,
      strip_joinLines]
  induction t using cutInduction (· == pipe) with
  | whole t ht => exact single t fun hm => by simpa using ht pipe hm
  | cut a c b ha hc ih =>
    obtain rfl : c = pipe := by simpa using hc
    have hfree : pipe ∉ a := fun hm => by simpa using ha pipe hm
    obtain ⟨x, y, hxy, -, hx, hy⟩ := joinLines_append_ink isInk_pipe a b
    rw [hxy, cutAt_append_mark, cutAt_append_mark, List.map_append, List.map_append,
      ← map_strip_cutAt_strip x, ← map_strip_cutAt_strip y, hx, hy, ih, single a hfree]

end TwinQuery
