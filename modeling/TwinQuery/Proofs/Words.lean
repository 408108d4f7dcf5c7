/-
# Words

The words of a text are known from two equations: a blank divides the words
before it from the words after it (`words_append_blank`), and a text without
blanks is one word (`words_of_ink`). What `mapWords` does to a text is known
in the same way. With the induction over the words (`blankInduction`), every
law about words is a matter of these equations.

Key definitions: `Text.OpensBlank`, `Text.firstWord`, `Text.afterWord`.
Key theorems: `Text.blankInduction`, `Text.words_append_blank`,
`Text.words_of_ink`, `Text.mem_words`, `Text.words_strip`,
`Text.takeWhile_append_blank`, `Text.words_append_ink`, `Text.words_mapWords`.
-/
import TwinQuery.Proofs.Layout

namespace TwinQuery

namespace Text

theorem isInk_of_forall {t : Text} (h : ∀ c ∈ t, isBlank c = false) : ∀ c ∈ t, isInk c :=
  fun c hc => (isInk_iff c).mpr (h c hc)

/-- Induction over the words of a text: what holds of texts without blanks, and
of two texts with a blank between them when it holds of both, holds of all
texts. -/
theorem blankInduction {motive : Text → Prop} (ink : ∀ t : Text, (∀ c ∈ t, isInk c) → motive t)
    (blank : ∀ (a : Text) (c : CodePoint) (b : Text), isBlank c → motive a → motive b →
      motive (a ++ c :: b)) (t : Text) : motive t := by
  induction t using cutInduction isBlank with
  | whole t ht => exact ink t (isInk_of_forall ht)
  | cut a c b ha hc ih => exact blank a c b hc (ink a (isInk_of_forall ha)) ih

theorem words_cons_blank {c : CodePoint} (hc : isBlank c) (t : Text) :
    words (c :: t) = words t := by
  simp [words, hc]

/-- A character before a blank is a word of its own. -/
theorem words_cons_cons_blank {c d : CodePoint} (hc : isInk c) (hd : isBlank d) (t : Text) :
    words (c :: d :: t) = [c] :: words (d :: t) := by
  rw [isInk_iff] at hc
  rw [words.eq_def]
  cases hw : words (d :: t) with
  | nil => simp [hc, hw]
  | cons w ws => simp [hc, hd, hw]

/-- A character before another one belongs to the word of that one. -/
theorem words_cons_cons_ink {c d : CodePoint} (hc : isInk c) (hd : isInk d) {t w : Text}
    {ws : List Text}
    (h : words (d :: t) = w :: ws) : words (c :: d :: t) = (c :: w) :: ws := by
  rw [isInk_iff] at hc hd
  rw [words.eq_def]
  simp [hc, hd, h]

theorem words_ne_nil {c : CodePoint} (hc : isInk c) (t : Text) : words (c :: t) ≠ [] := by
  rw [isInk_iff] at hc
  unfold words
  simp only [hc, Bool.false_eq_true, if_false]
  split
  · split <;> simp
  · simp

theorem words_of_ink {c : CodePoint} {t : Text} (h : ∀ d ∈ c :: t, isInk d) :
    words (c :: t) = [c :: t] := by
  induction t generalizing c with
  | nil =>
    have hc := (isInk_iff c).mp (h c List.mem_cons_self)
    simp [words, hc]
  | cons d t ih =>
    have hd := fun e he => h e (List.mem_cons_of_mem _ he)
    exact words_cons_cons_ink (h c List.mem_cons_self) (hd d List.mem_cons_self) (ih hd)

/-- **A blank divides the words before it from the words after it.** -/
theorem words_append_blank {c : CodePoint} (hc : isBlank c) (b : Text) :
    ∀ a : Text, words (a ++ c :: b) = words a ++ words b
  | [] => words_cons_blank hc b
  | d :: a => by
    have ih := words_append_blank hc b a
    by_cases hd : isInk d
    · cases a with
      | nil =>
        rw [List.singleton_append, words_cons_cons_blank hd hc, words_cons_blank hc,
          words_of_ink (by simpa using hd), List.singleton_append]
      | cons e a =>
        rw [List.cons_append] at ih
        by_cases he : isInk e
        · obtain ⟨w, ws, hw⟩ := List.exists_cons_of_ne_nil (words_ne_nil he a)
          rw [hw, List.cons_append] at ih
          rw [List.cons_append, List.cons_append, words_cons_cons_ink hd he ih,
            words_cons_cons_ink hd he hw, List.cons_append]
        · have he := isBlank_of_not_isInk he
          rw [List.cons_append, List.cons_append, words_cons_cons_blank hd he, ih,
            words_cons_cons_blank hd he, List.cons_append]
    · have hd := isBlank_of_not_isInk hd
      rw [List.cons_append, words_cons_blank hd, words_cons_blank hd, ih]

/-- A word is not empty, has no blanks, and is a part of the text. -/
theorem mem_words {t w : Text} (hw : w ∈ words t) : w ≠ [] ∧ (∀ c ∈ w, isInk c) ∧ w ⊆ t := by
  induction t using blankInduction with
  | ink t ht =>
    cases t with
    | nil => simp [words] at hw
    | cons c t =>
      rw [words_of_ink ht, List.mem_singleton] at hw
      subst hw
      exact ⟨by simp, ht, List.Subset.refl _⟩
  | blank a c b hc iha ihb =>
    rw [words_append_blank hc, List.mem_append] at hw
    rcases hw with hw | hw
    · obtain ⟨hne, hink, hsub⟩ := iha hw
      exact ⟨hne, hink, fun d hd => List.mem_append_left _ (hsub hd)⟩
    · obtain ⟨hne, hink, hsub⟩ := ihb hw
      exact ⟨hne, hink, fun d hd => List.mem_append_right _ (List.mem_cons_of_mem _ (hsub hd))⟩

theorem words_of_blank : ∀ {t : Text}, (∀ c ∈ t, isBlank c) → words t = []
  | [], _ => rfl
  | c :: t, h => by
    rw [words_cons_blank (h c List.mem_cons_self)]
    exact words_of_blank fun d hd => h d (List.mem_cons_of_mem _ hd)

theorem words_append_of_blank {b : Text} (hb : ∀ c ∈ b, isBlank c) (t : Text) :
    words (t ++ b) = words t := by
  cases b with
  | nil => rw [List.append_nil]
  | cons c b =>
    rw [words_append_blank (hb c List.mem_cons_self),
      words_of_blank fun d hd => hb d (List.mem_cons_of_mem _ hd), List.append_nil]

@[simp] theorem words_stripStart : ∀ t : Text, words (stripStart t) = words t
  | [] => rfl
  | c :: t => by
    by_cases hc : isInk c
    · rw [stripStart_cons_ink hc]
    · have hc := isBlank_of_not_isInk hc
      rw [stripStart_cons_blank hc, words_cons_blank hc, words_stripStart t]

@[simp] theorem words_stripEnd (t : Text) : words (stripEnd t) = words t := by
  obtain ⟨b, hb, ht⟩ := stripEnd_append_rest t
  calc words (stripEnd t) = words (stripEnd t ++ b) := (words_append_of_blank hb _).symm
    _ = words t := by rw [ht]

@[simp] theorem words_strip (t : Text) : words (strip t) = words t := by
  rw [strip, words_stripEnd, words_stripStart]

/-! ### Scanning up to the blanks -/

/-- What can follow a word: nothing, or a text that begins with a blank. -/
def OpensBlank (b : Text) : Prop := ∀ c ∈ b.head?, isBlank c

theorem OpensBlank.of_blank {b : Text} (hb : ∀ c ∈ b, isBlank c) : OpensBlank b :=
  fun c hc => hb c (List.mem_of_mem_head? hc)

theorem opensBlank_cons {c : CodePoint} (hc : isBlank c) (b : Text) : OpensBlank (c :: b) := by
  rintro d ⟨⟩
  exact hc

theorem isInk_of_isBlank {c : CodePoint} (hc : isBlank c) : isInk c = false := by
  simp [isInk, hc]

section

variable {b : Text} (hb : OpensBlank b)

include hb

/-- A scan for characters that are not blank stops before the blanks. -/
theorem takeWhile_append_blank {p : CodePoint → Bool} (hp : ∀ c, isBlank c → p c = false)
    (t : Text) :
    (t ++ b).takeWhile p = t.takeWhile p := by
  have hnil : b.takeWhile p = [] := by
    cases b with
    | nil => rfl
    | cons c b => simp [hp c (hb c rfl)]
  rw [List.takeWhile_append]
  split
  · rename_i hlen
    rw [hnil, List.append_nil]
    exact ((List.takeWhile_sublist p).eq_of_length hlen).symm
  · rfl

/-- A key without blanks is found before the blanks or not at all. -/
theorem dropStart?_append_blank {key : Text} (hkey : ∀ c ∈ key, isInk c) (t : Text) :
    dropStart? key (t ++ b) = (dropStart? key t).map (· ++ b) := by
  induction key generalizing t with
  | nil => rfl
  | cons k key ih =>
    obtain ⟨hk, hkey⟩ := List.forall_mem_cons.mp hkey
    cases t with
    | cons c t => by_cases hc : k = c <;> simp [dropStart?, hc, ih hkey]
    | nil =>
      cases b with
      | nil => rfl
      | cons c b =>
        have hkc : k ≠ c := by
          rintro rfl
          rw [isInk_iff, hb k rfl] at hk
          cases hk
        simp [dropStart?, hkc]

end

/-! ### The first word -/

/-- What a text adds to a word before it: its characters up to the first
blank. -/
def firstWord (t : Text) : Text := t.takeWhile isInk

/-- What follows the first word of a text. -/
def afterWord (t : Text) : Text := t.dropWhile isInk

theorem firstWord_append_afterWord (t : Text) : firstWord t ++ afterWord t = t :=
  List.takeWhile_append_dropWhile

theorem firstWord_append_ink {a : Text} (ha : ∀ c ∈ a, isInk c) (t : Text) :
    firstWord (a ++ t) = a ++ firstWord t :=
  List.takeWhile_append_of_pos ha

theorem ink_firstWord (t : Text) : ∀ c ∈ firstWord t, isInk c :=
  List.all_eq_true.mp List.all_takeWhile

theorem firstWord_isPrefix (a t : Text) : firstWord a <+: firstWord (a ++ t) := by
  refine ⟨firstWord (afterWord a ++ t), ?_⟩
  rw [← firstWord_append_ink (ink_firstWord a), ← List.append_assoc, firstWord_append_afterWord]

theorem firstWord_of_ink {a : Text} (ha : ∀ c ∈ a, isInk c) : firstWord a = a := by
  have hword := firstWord_append_ink ha []
  rwa [List.append_nil, show firstWord [] = [] from rfl, List.append_nil] at hword

theorem firstWord_append_blank {t : Text} (ht : OpensBlank t) (a : Text) :
    firstWord (a ++ t) = firstWord a :=
  takeWhile_append_blank ht (fun _ => isInk_of_isBlank) a

theorem opensBlank_afterWord (t : Text) : OpensBlank (afterWord t) := by
  intro c hc
  have hhead := List.head?_dropWhile_not isInk t
  rw [show (t.dropWhile isInk).head? = some c from hc] at hhead
  exact isBlank_of_not_isInk (by simpa using hhead)

/-- A text with a blank in it ends its first word itself. -/
theorem firstWord_append_of_any {a : Text} (h : a.any isBlank) (t : Text) :
    firstWord (a ++ t) = firstWord a ∧ afterWord (a ++ t) = afterWord a ++ t := by
  induction a with
  | nil => cases h
  | cons c a ih =>
    by_cases hc : isInk c
    · have hc' := (isInk_iff c).mp hc
      obtain ⟨hfirst, hafter⟩ := ih (by simpa [hc'] using h)
      unfold firstWord afterWord at *
      simp [hc, hfirst, hafter]
    · unfold firstWord afterWord
      simp [hc]

/-- Blanks before a text do not change its words. -/
theorem words_blank_append : ∀ {b : Text}, (∀ c ∈ b, isBlank c) → ∀ t, words (b ++ t) = words t
  | [], _, _ => rfl
  | c :: b, hb, t => by
    rw [List.cons_append, words_cons_blank (hb c List.mem_cons_self)]
    exact words_blank_append (fun d hd => hb d (List.mem_cons_of_mem c hd)) t

/-- A word goes on up to the first blank after it. -/
theorem words_append_ink {a : Text} (hne : a ≠ []) (ha : ∀ c ∈ a, isInk c) (t : Text) :
    words (a ++ t) = (a ++ firstWord t) :: words (afterWord t) := by
  have hword : words (a ++ firstWord t) = [a ++ firstWord t] := by
    obtain ⟨c, a, rfl⟩ := List.exists_cons_of_ne_nil hne
    refine words_of_ink fun d hd => ?_
    exact (List.mem_append.mp hd).elim (ha d) (ink_firstWord t d)
  have hblank := opensBlank_afterWord t
  calc words (a ++ t) = words ((a ++ firstWord t) ++ afterWord t) := by
        rw [List.append_assoc, firstWord_append_afterWord]
    _ = (a ++ firstWord t) :: words (afterWord t) := by
        cases h : afterWord t with
        | nil => rw [List.append_nil, hword]; rfl
        | cons c rest =>
          rw [h] at hblank
          have hc : isBlank c := hblank c rfl
          rw [words_append_blank hc, hword, words_cons_blank hc, List.singleton_append]

/-! ### Mapping the words -/

theorem mapWordsFrom_append_blank (f : Text → Text) {c : CodePoint} (hc : isBlank c) (b : Text) :
    ∀ a word : Text, mapWordsFrom f word (a ++ c :: b) = mapWordsFrom f word a ++ c :: mapWords f b
  | [], word => by simp [mapWordsFrom, hc, mapWords]
  | d :: a, word => by
    by_cases hd : isBlank d <;>
      simp [mapWordsFrom, hd, mapWordsFrom_append_blank f hc b a]

theorem mapWords_append_blank (f : Text → Text) {c : CodePoint} (hc : isBlank c) (a b : Text) :
    mapWords f (a ++ c :: b) = mapWords f a ++ c :: mapWords f b :=
  mapWordsFrom_append_blank f hc b a []

theorem mapWordsFrom_of_ink (f : Text → Text) : ∀ {t : Text} (word : Text),
    (∀ c ∈ t, isInk c) → word ++ t ≠ [] → mapWordsFrom f word t = f (word ++ t)
  | [], word, _, hne => by
    have hword : word ≠ [] := by simpa using hne
    simp [mapWordsFrom, hword]
  | c :: t, word, h, _ => by
    have hc := (isInk_iff c).mp (h c List.mem_cons_self)
    have ih := mapWordsFrom_of_ink f (word ++ [c]) (fun d hd => h d (List.mem_cons_of_mem _ hd))
      (by simp)
    rw [mapWordsFrom, hc, if_neg (by simp), ih, List.append_assoc, List.singleton_append]

theorem mapWords_of_ink (f : Text → Text) {c : CodePoint} {t : Text} (h : ∀ d ∈ c :: t, isInk d) :
    mapWords f (c :: t) = f (c :: t) :=
  mapWordsFrom_of_ink f [] h (by simp)

/-- Words that are mapped to parts of themselves give a part of the text. -/
theorem mapWords_subset {f : Text → Text} (hf : ∀ w, f w ⊆ w) (t : Text) : mapWords f t ⊆ t := by
  induction t using blankInduction with
  | ink t ht =>
    cases t with
    | nil => exact List.Subset.refl _
    | cons c t =>
      rw [mapWords_of_ink f ht]
      exact hf _
  | blank a c b hc iha ihb =>
    rw [mapWords_append_blank f hc]
    intro d hd
    rcases List.mem_append.mp hd with hd | hd
    · exact List.mem_append_left _ (iha hd)
    · exact List.mem_append_right _ (List.cons_subset_cons c ihb hd)

/-- The words of a mapped text are the words of the images, in order. -/
theorem words_mapWords (f : Text → Text) (t : Text) :
    words (mapWords f t) = (words t).flatMap fun w => words (f w) := by
  induction t using blankInduction with
  | ink t ht =>
    cases t with
    | nil => rfl
    | cons c t =>
      rw [mapWords_of_ink f ht, words_of_ink ht]
      simp
  | blank a c b hc iha ihb =>
    rw [mapWords_append_blank f hc, words_append_blank hc, words_append_blank hc,
      List.flatMap_append, iha, ihb]

end Text

end TwinQuery
