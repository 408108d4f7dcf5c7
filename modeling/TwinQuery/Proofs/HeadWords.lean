/-
# What becomes of the words of a search head

A word of a search head can leave a trace in KQL in three ways: it is the
first word that carries one of the head keys, and its value becomes the
table, the source type, the source or the time; it is a word to look for, and
has a predicate; or it is a filter, and is noted (`Accounted`).

Not every word does. A value is taken from the first word that carries the
key, but index, source type and source terms are erased from all words, and a
word that begins with a head key is never noted as a filter. So a head key
without a value is dropped, and so is a word with a key that an earlier word
carries already (`IsSilent`). These are the only words that are dropped
(`accounted_iff_not_isSilent`).

The value of a key in a word is read off the word alone. The time is read off
the text of the head, since it may be quoted and hold blanks, but it begins
where the value of the first word that carries `earliest=` begins
(`earliestFrom_of_first`).

Key definitions: `Carries`, `FirstWith`, `TimeAt`, `Accounted`, `IsSilent`.
Key theorems: `cutField_eraseLogSource`, `earliestFrom_append`,
`earliestFrom_of_first`, `accounted_iff_not_isSilent`.
-/
import TwinQuery.Conversion.ToKql
import TwinQuery.Proofs.Extraction
import TwinQuery.Proofs.Head

namespace TwinQuery

open Text

/-! ### Words that carry a key -/

/-- The keys of the terms that are erased, as they are written. -/
def logMarks : List Text := ["index=", "sourcetype=", "source="]

/-- The head keys as they are written. -/
def headMarks : List Text := ["index=", "sourcetype=", "source=", "earliest="]

/-- A word has a key in it at a word boundary, and a value after it. -/
def Carries (mark word : Text) : Prop := (cutField mark word).isSome

instance (mark word : Text) : Decidable (Carries mark word) :=
  inferInstanceAs (Decidable (_ = true))

theorem not_carries_iff {mark word : Text} : ¬ Carries mark word ↔ cutField mark word = none := by
  simp [Carries]

/-- A key at the start of a word is found there, when something follows it. -/
theorem cutField_append {mark value : Text} (hmark : mark ≠ []) (hvalue : value ≠ []) :
    cutField mark (mark ++ value) = some ([], value) := by
  obtain ⟨c, mark, rfl⟩ := List.exists_cons_of_ne_nil hmark
  obtain ⟨v, value, rfl⟩ := List.exists_cons_of_ne_nil hvalue
  have hkey : dropStart? (c :: mark) (c :: (mark ++ v :: value)) = some (v :: value) :=
    dropStart?_eq_some_iff.mpr rfl
  simp only [cutField, List.cons_append, cutFieldFrom, Bool.false_eq_true, if_false, hkey]

theorem carries_append {mark value : Text} (hmark : mark ≠ []) (hvalue : value ≠ []) :
    Carries mark (mark ++ value) := by
  rw [Carries, cutField_append hmark hvalue, Option.isSome_some]

/-- What carries no key has no start that carries it. -/
theorem cutFieldFrom_of_append {mark : Text} : ∀ {s r : Text} {inWord : Bool},
    cutFieldFrom mark inWord (s ++ r) = none → cutFieldFrom mark inWord s = none
  | [], _, _, _ => rfl
  | c :: s, r, inWord, h => by
    have later : cutFieldFrom mark (isWord c) (s ++ r) = none →
        cutFieldFrom mark (isWord c) s = none := cutFieldFrom_of_append
    rw [List.cons_append] at h
    unfold cutFieldFrom at h ⊢
    split
    · rename_i v value hkey
      cases inWord with
      | true => cases hkey
      | false =>
        have hword : c :: s = mark ++ v :: value := dropStart?_eq_some_iff.mp hkey
        have hkey' : dropStart? mark (c :: (s ++ r)) = some (v :: (value ++ r)) := by
          rw [dropStart?_eq_some_iff, ← List.cons_append, hword, List.append_assoc,
            List.cons_append]
        simp [hkey'] at h
    · split at h
      · cases h
      · rw [later (Option.map_eq_none_iff.mp h), Option.map_none]

/-- What stands before the first place of a key does not carry it. -/
theorem cutFieldFrom_before {mark : Text} : ∀ {word : Text} {inWord : Bool} {lead value : Text},
    cutFieldFrom mark inWord word = some (lead, value) → cutFieldFrom mark inWord lead = none
  | [], _, _, _, h => by simp [cutFieldFrom] at h
  | c :: rest, inWord, lead, value, h => by
    unfold cutFieldFrom at h
    split at h
    · cases h
      rfl
    · rename_i hkey
      obtain ⟨⟨lead', value'⟩, hrest, heq⟩ := Option.map_eq_some_iff.mp h
      cases heq
      have hlater := cutFieldFrom_before hrest
      unfold cutFieldFrom
      split
      · rename_i v tail hkey'
        cases inWord with
        | true => cases hkey'
        | false =>
          have hlead : c :: lead' = mark ++ v :: tail := dropStart?_eq_some_iff.mp hkey'
          have hword : c :: rest = mark ++ v :: (tail ++ (mark ++ value)) := by
            rw [(cutFieldFrom_eq_some hrest).1, ← List.cons_append, hlead, List.append_assoc,
              List.cons_append]
          exact absurd (dropStart?_eq_some_iff.mpr hword) (hkey v _)
      · rw [hlater, Option.map_none]

theorem cutField_eraseField (mark word : Text) : cutField mark (eraseField mark word) = none := by
  unfold eraseField
  cases h : cutField mark word with
  | none => exact h
  | some parts => exact cutFieldFrom_before h

theorem cutField_eraseField_of_eq_none {mark word : Text} (h : cutField mark word = none)
    (mark' : Text) : cutField mark (eraseField mark' word) = none := by
  obtain ⟨r, hr⟩ := eraseField_isPrefix mark' word
  refine cutFieldFrom_of_append (r := r) ?_
  rw [hr]
  exact h

/-- **Of a word without its log source terms no log source can be read.** -/
theorem cutField_eraseLogSource (word : Text) :
    ∀ mark ∈ logMarks, cutField mark (eraseLogSource word) = none := by
  have hindex := cutField_eraseField "index=" word
  have hsourcetype := cutField_eraseField "sourcetype=" (eraseField "index=" word)
  unfold eraseLogSource
  simp only [logMarks, List.forall_mem_cons, List.not_mem_nil, false_implies, implies_true,
    and_true]
  refine ⟨?_, ?_, cutField_eraseField _ _⟩
  · exact cutField_eraseField_of_eq_none (cutField_eraseField_of_eq_none hindex _) _
  · exact cutField_eraseField_of_eq_none hsourcetype _

theorem eraseLogSource_of_cutField {word : Text}
    (h : ∀ mark ∈ logMarks, cutField mark word = none) : eraseLogSource word = word := by
  have herase : ∀ mark ∈ logMarks, eraseField mark word = word := fun mark hm => by
    rw [eraseField, h mark hm]
    rfl
  unfold eraseLogSource
  rw [herase "index=" (by decide), herase "sourcetype=" (by decide), herase "source=" (by decide)]

/-- The words of the free text are the words of the head, each without its
log source terms. -/
theorem mem_words_freeText {head word : Text} :
    word ∈ words (freeText head) ↔ word ≠ [] ∧ ∃ u ∈ words head, eraseLogSource u = word := by
  have single : ∀ {u : Text}, (∀ c ∈ u, isInk c) → (word ∈ words u ↔ word ≠ [] ∧ u = word) := by
    intro u hu
    cases u with
    | nil => simp [words, eq_comm]
    | cons c u =>
      rw [words_of_ink hu, List.mem_singleton]
      constructor
      · rintro rfl
        exact ⟨by simp, rfl⟩
      · exact fun h => h.2.symm
  have hink : ∀ u ∈ words head, ∀ c ∈ eraseLogSource u, isInk c := fun u hu c hc =>
    (mem_words hu).2.1 c (eraseLogSource_subset u hc)
  rw [freeText, words_strip, words_mapWords, List.mem_flatMap]
  constructor
  · rintro ⟨u, hu, hw⟩
    obtain ⟨hne, heq⟩ := (single (hink u hu)).mp hw
    exact ⟨hne, u, hu, heq⟩
  · rintro ⟨hne, u, hu, heq⟩
    exact ⟨u, hu, (single (hink u hu)).mpr ⟨hne, heq⟩⟩

/-! ### The time -/

theorem earliestFrom_of_opensBlank {q : Text} (hq : OpensBlank q) (inWord : Bool) :
    earliestFrom inWord q = earliestFrom false q := by
  cases q with
  | nil => rfl
  | cons c q =>
    have hc : isBlank c := hq c rfl
    rw [earliestFrom_cons_blank hc, earliestFrom_cons_blank hc]

theorem exists_timeValue? {v : CodePoint} (hv : isInk v) (t : Text) :
    ∃ time, timeValue? (v :: t) = some time := by
  unfold timeValue?
  simp [hv]

theorem timeValue?_of_opensBlank {q : Text} (hq : OpensBlank q) : timeValue? q = none := by
  have hnil : q.takeWhile isInk = [] := takeWhile_append_blank hq (fun c => isInk_of_isBlank) []
  rw [timeValue?, hnil]

/-- **The time of a head is read after the first word that carries its key:**
the scan reads the word as `cutFieldFrom` does, and goes on after it. -/
theorem earliestFrom_append {a q : Text} (ha : ∀ c ∈ a, isInk c) (hq : OpensBlank q) :
    ∀ inWord : Bool, earliestFrom inWord (a ++ q) =
      match cutFieldFrom "earliest=" inWord a with
      | some (_, value) => timeValue? (value ++ q)
      | none => earliestFrom false q := by
  induction a with
  | nil => exact earliestFrom_of_opensBlank hq
  | cons c a ih =>
    intro inWord
    have later := ih (fun d hd => ha d (List.mem_cons_of_mem c hd)) (isWord c)
    cases inWord with
    | true =>
      rw [List.cons_append, earliestFrom, cutFieldFrom]
      simp only [if_true, later]
      cases cutFieldFrom "earliest=" (isWord c) a <;> rfl
    | false =>
      have hink : ∀ k ∈ ("earliest=" : Text), isInk k := List.all_eq_true.mp rfl
      have hkey := dropStart?_append_blank hq hink (c :: a)
      rw [List.cons_append] at hkey ⊢
      rw [earliestFrom, cutFieldFrom]
      simp only [Bool.false_eq_true, if_false, hkey, later]
      cases hdrop : dropStart? "earliest=" (c :: a) with
      | none => cases cutFieldFrom "earliest=" (isWord c) a <;> rfl
      | some after =>
        cases after with
        | nil =>
          -- the key ends the word, and no time begins with a blank
          simp only [Option.map_some, List.nil_append, timeValue?_of_opensBlank hq, Option.none_or]
          cases cutFieldFrom "earliest=" (isWord c) a <;> rfl
        | cons v value =>
          have hword : c :: a = "earliest=" ++ v :: value := dropStart?_eq_some_iff.mp hdrop
          have hmem : v ∈ c :: a := by
            rw [hword]
            simp
          have hv : isInk v := ha v hmem
          obtain ⟨time, htime⟩ := exists_timeValue? hv (value ++ q)
          simp [htime]

/-! ### The first word that carries a key -/

/-- A word is the first that carries a key: the words before it do not. -/
structure FirstWith (mark : Text) (before : List Text) (word lead value : Text) : Prop where
  cut : cutField mark word = some (lead, value)
  fresh : ∀ u ∈ before, ¬ Carries mark u

theorem FirstWith.exists_of_carries {mark : Text} {before : List Text} {word : Text}
    (hword : Carries mark word) (hbefore : ¬ ∃ u ∈ before, Carries mark u) :
    ∃ lead value, FirstWith mark before word lead value := by
  obtain ⟨⟨lead, value⟩, hcut⟩ := Option.isSome_iff_exists.mp hword
  exact ⟨lead, value, hcut, fun u hu hcarries => hbefore ⟨u, hu, hcarries⟩⟩

section

variable {head : Text} {before after : List Text} {word lead value : Text}

/-- The value of a key is the value in the first word that carries it. -/
theorem fieldValue_of_first {mark : Text} (hwords : words head = before ++ word :: after)
    (hfirst : FirstWith mark before word lead value) : fieldValue mark head = some value := by
  have hnone : before.findSome? (fun u => (cutField mark u).map Prod.snd) = none := by
    rw [List.findSome?_eq_none_iff]
    intro u hu
    rw [not_carries_iff.mp (hfirst.fresh u hu), Option.map_none]
  simp [fieldValue, hwords, hnone, hfirst.cut]

/-- Where the time of a text is read: at the value of the word `word`, before
the words `after`. -/
structure TimeAt (t word value : Text) (after : List Text) (r : Text) : Prop where
  split : ∃ lead, t = lead ++ word ++ r
  opens : OpensBlank r
  words_eq : words r = after
  scan : earliestFrom false t = timeValue? (value ++ r)

/-- One word of the scan for the time: it is the first that carries the key,
or the scan goes on after it. -/
theorem earliestFrom_of_first_append {a q : Text} (ha : ∀ c ∈ a, isInk c)
    (hq : OpensBlank q) (hwords : words a ++ words q = before ++ word :: after)
    (hfirst : FirstWith "earliest=" before word lead value)
    (hrest : ∀ later, words q = later ++ word :: after →
      FirstWith "earliest=" later word lead value → ∃ r, TimeAt q word value after r) :
    ∃ r, TimeAt (a ++ q) word value after r := by
  cases a with
  | nil => exact hrest before hwords hfirst
  | cons c a =>
    have hscan := earliestFrom_append ha hq false
    rw [words_of_ink ha, List.singleton_append] at hwords
    cases before with
    | nil =>
      obtain ⟨rfl, hafter⟩ := List.cons.inj hwords
      have hcut : cutFieldFrom "earliest=" false (c :: a) = some (lead, value) := hfirst.cut
      exact ⟨q, ⟨[], rfl⟩, hq, hafter, by rw [hscan, hcut]⟩
    | cons u before =>
      obtain ⟨rfl, hws⟩ := List.cons.inj hwords
      have hcut : cutFieldFrom "earliest=" false (c :: a) = none :=
        not_carries_iff.mp (hfirst.fresh _ List.mem_cons_self)
      obtain ⟨r, ⟨front, hsplit⟩, hopens, hafter, hread⟩ := hrest before hws
        ⟨hfirst.cut, fun u hu => hfirst.fresh u (List.mem_cons_of_mem _ hu)⟩
      exact ⟨r, ⟨c :: a ++ front, by rw [hsplit]; simp⟩, hopens, hafter,
        by rw [hscan, hcut]; exact hread⟩

/-- The time of a head is read where the value of the first word that carries
`earliest=` begins, and what follows the word begins with a blank. -/
theorem earliestFrom_of_first (hwords : words head = before ++ word :: after)
    (hfirst : FirstWith "earliest=" before word lead value) :
    ∃ r, TimeAt head word value after r := by
  induction head using cutInduction isBlank generalizing before with
  | whole a ha =>
    have hnil : words [] = [] := rfl
    have hsplit : words a ++ words [] = before ++ word :: after := by
      rw [hnil, List.append_nil, hwords]
    rw [← List.append_nil a]
    exact earliestFrom_of_first_append (isInk_of_forall ha) (fun _ hc => nomatch hc) hsplit hfirst
      fun later hlater _ => by simp [hnil] at hlater
  | cut a c b ha hc ih =>
    have hb : words (c :: b) = words b := words_cons_blank hc b
    rw [words_append_blank hc, ← hb] at hwords
    refine earliestFrom_of_first_append (isInk_of_forall ha) (opensBlank_cons hc b) hwords hfirst ?_
    intro later hlater hfresh
    obtain ⟨r, ⟨front, hsplit⟩, hopens, hafter, hread⟩ := ih (hb ▸ hlater) hfresh
    exact ⟨r, ⟨c :: front, by rw [hsplit]; rfl⟩, hopens, hafter,
      (earliestFrom_cons_blank hc false b).trans hread⟩

/-- A head without a word that carries `earliest=` has no time. -/
theorem earliestFrom_of_not_carries (h : ∀ u ∈ words head, ¬ Carries "earliest=" u) :
    earliestFrom false head = none := by
  have hcut : ∀ {a : Text}, (∀ c ∈ a, isBlank c = false) →
      (∀ u ∈ words a, ¬ Carries "earliest=" u) → cutFieldFrom "earliest=" false a = none := by
    intro a ha hfree
    cases a with
    | nil => rfl
    | cons c a => exact not_carries_iff.mp (hfree _ (by rw [words_of_ink (isInk_of_forall ha)]; simp))
  induction head using cutInduction isBlank with
  | whole a ha =>
    have hscan := earliestFrom_append (isInk_of_forall ha) (q := []) (fun _ hc => nomatch hc) false
    rw [List.append_nil, hcut ha h] at hscan
    exact hscan
  | cut a c b ha hc ih =>
    rw [words_append_blank hc] at h
    rw [earliestFrom_append (isInk_of_forall ha) (opensBlank_cons hc b),
      hcut ha fun u hu => h u (List.mem_append_left _ hu)]
    simp only [earliestFrom_cons_blank hc]
    exact ih fun u hu => h u (List.mem_append_right _ hu)

end

/-! ### Traces of a word -/

open SearchHead

/-- A word of a head, with the words before it, has a trace in the KQL of the
head: it is the first word with a head key and gives its value, or it is a
word to look for, or it is noted. A time may go on after the word, when it is
quoted and holds blanks, or end in the word. -/
inductive Accounted (h : SearchHead) (before : List Text) (word : Text) : Prop where
  | index {lead value : Text} (first : FirstWith "index=" before word lead value)
      (trace : h.table = tableOfIndex value)
  | sourcetype {lead value : Text} (first : FirstWith "sourcetype=" before word lead value)
      (trace : sourcetypePredicate value ∈ h.predicates)
  | source {lead value : Text} (first : FirstWith "source=" before word lead value)
      (trace : sourcePredicate value ∈ h.predicates)
  | earliest {lead value time : Text} (first : FirstWith "earliest=" before word lead value)
      (start : time <+: value ∨ value <+: time) (trace : timePredicate time ∈ h.predicates)
  | term (trace : termPredicate word ∈ h.predicates)
  | filter (trace : filterNote word ∈ h.toKql.notes)

/-- A word is dropped: it is a head key without a value, or it has a head key
that keeps it from being noted, and every head key that it carries is carried
by a word before it. -/
def IsSilent (before : List Text) (word : Text) : Prop :=
  word ∈ headMarks ∨
    ((∃ mark ∈ logMarks, Carries mark word) ∨ Text.ofString "earliest=" <+: word) ∧
      ∀ mark ∈ headMarks, Carries mark word → ∃ u ∈ before, Carries mark u

instance (before : List Text) (word : Text) : Decidable (IsSilent before word) :=
  inferInstanceAs (Decidable (_ ∨ _))

/-- The first word that carries a head key gives its value. -/
theorem accounted_of_first {head : Text} {before after : List Text} {word mark lead value : Text}
    (hwords : words head = before ++ word :: after) (hmark : mark ∈ headMarks)
    (hfirst : FirstWith mark before word lead value) : Accounted (ofText head) before word := by
  simp only [headMarks, List.mem_cons, List.not_mem_nil, or_false] at hmark
  rcases hmark with rfl | rfl | rfl | rfl
  · have hvalue : (ofText head).index = some value := fieldValue_of_first hwords hfirst
    exact .index hfirst (by rw [table, hvalue]; rfl)
  · have hvalue : (ofText head).sourcetype = some value := fieldValue_of_first hwords hfirst
    exact .sourcetype hfirst (by simp [predicates, hvalue])
  · have hvalue : (ofText head).source = some value := fieldValue_of_first hwords hfirst
    exact .source hfirst (by simp [predicates, hvalue])
  · obtain ⟨r, hread⟩ := earliestFrom_of_first hwords hfirst
    have hscan := hread.scan
    obtain ⟨hword, hne⟩ := cutFieldFrom_eq_some hfirst.cut
    obtain ⟨v, value, rfl⟩ := List.exists_cons_of_ne_nil hne
    have hmem : word ∈ words head := by
      rw [hwords]
      simp
    have hv : isInk v := (mem_words hmem).2.1 v (by rw [hword]; simp)
    obtain ⟨time, htime⟩ := exists_timeValue? hv (value ++ r)
    have hearliest : (ofText head).earliest = some time := hscan.trans htime
    have htrace : timePredicate time ∈ (ofText head).predicates := by
      simp [predicates, hearliest]
    have hstart : time <+: v :: value ∨ v :: value <+: time :=
      List.prefix_or_prefix_of_prefix (timeValue?_isPrefix htime) ⟨r, rfl⟩
    exact .earliest hfirst hstart htrace

theorem not_mem_of_termPredicate {head word : Text}
    (h : termPredicate word ∈ (ofText head).predicates) : .char '=' ∉ word := by
  -- the other predicates begin with a letter
  have hother : ∀ p ∈ [timePredicate, sourcetypePredicate, sourcePredicate], ∀ v : Text,
      p v ≠ termPredicate word := by
    intro p hp v heq
    have hhead := congrArg List.head? heq
    simp only [List.mem_cons, List.not_mem_nil, or_false] at hp
    rcases hp with rfl | rfl | rfl <;> cases hhead
  simp only [predicates, List.mem_append, Option.mem_toList, Option.map_eq_some_iff,
    List.mem_map] at h
  rcases h with ((⟨v, -, h⟩ | ⟨v, -, h⟩) | ⟨v, -, h⟩) | ⟨term, hterm, h⟩
  · exact absurd h (hother _ (by simp) v)
  · exact absurd h (hother _ (by simp) v)
  · exact absurd h (hother _ (by simp) v)
  · have hunquote : unquote term = unquote word := by
      simpa [termPredicate] using h
    have hkeyed : isKeyed term = false := by
      simpa using (List.mem_filter.mp hterm).2
    intro hmem
    have hmem : .char '=' ∈ unquote term := by
      rw [hunquote]
      exact List.mem_filter.mpr ⟨hmem, rfl⟩
    simp [isKeyed, unquote_subset term hmem] at hkeyed

theorem mem_filters_of_filterNote {h : SearchHead} {word : Text}
    (hnote : filterNote word ∈ h.toKql.notes) : word ∈ h.filters := by
  have hnote : filterNote word ∈ h.notes := hnote
  simp only [notes, List.mem_append, Option.mem_toList, Option.map_eq_some_iff,
    List.mem_map] at hnote
  rcases hnote with (⟨v, -, h⟩ | ⟨filter, hfilter, h⟩) | ⟨v, -, h⟩
  · cases congrArg List.head? h
  · have heq : filter = word := by
      simpa [filterNote] using h
    exact heq ▸ hfilter
  · cases congrArg List.head? h

theorem mem_of_carries {mark word : Text} {c : CodePoint} (hc : c ∈ mark) (h : Carries mark word) :
    c ∈ word := by
  obtain ⟨⟨lead, value⟩, hcut⟩ := Option.isSome_iff_exists.mp h
  rw [(cutFieldFrom_eq_some hcut).1]
  simp [hc]

/-- The key of a keyed word stands at its start. -/
theorem eq_keyOf_append {word : Text} (h : isKeyed word) :
    ∃ rest, word = keyOf word ++ .char '=' :: rest := by
  obtain ⟨key, rest, rfl, hkey⟩ := List.eq_append_cons_of_mem (by simpa [isKeyed] using h)
  have hkey : ∀ c ∈ key, (c != '=') = true := by
    intro c hc
    rw [bne_iff_ne]
    rintro rfl
    exact hkey hc
  refine ⟨rest, ?_⟩
  rw [keyOf, List.takeWhile_append_of_pos hkey]
  simp

/-- A word that begins with a head key is that key, or carries it. -/
theorem mem_headMarks_or_carries {word : Text} (hkeyed : isKeyed word)
    (hkey : keyOf word ∈ headKeys) :
    word ∈ headMarks ∨ ∃ mark ∈ headMarks, mark <+: word ∧ Carries mark word := by
  obtain ⟨rest, hword⟩ := eq_keyOf_append hkeyed
  generalize keyOf word = key at hkey hword
  subst hword
  have hmark : key ++ [.char '='] ∈ headMarks :=
    (by decide : ∀ key ∈ headKeys, key ++ [.char '='] ∈ headMarks) key hkey
  cases rest with
  | nil => exact .inl hmark
  | cons v value =>
    have hsplit : key ++ .char '=' :: v :: value = (key ++ [.char '=']) ++ v :: value := by
      rw [List.append_assoc, List.singleton_append]
    rw [hsplit]
    exact .inr ⟨key ++ [.char '='], hmark, ⟨v :: value, rfl⟩, carries_append (by simp) (by simp)⟩

theorem IsSilent.mem_equals {before : List Text} {word : Text} (h : IsSilent before word) :
    .char '=' ∈ word := by
  rcases h with hbare | ⟨⟨mark, hmark, hcarries⟩ | hearliest, -⟩
  · exact (by decide : ∀ mark ∈ headMarks, .char '=' ∈ mark) word hbare
  · exact mem_of_carries ((by decide : ∀ mark ∈ logMarks, .char '=' ∈ mark) mark hmark) hcarries
  · exact hearliest.subset (by decide)

/-- A word that is dropped is not the first with any head key. -/
theorem IsSilent.not_first {before : List Text} {word mark lead value : Text}
    (h : IsSilent before word) (hmark : mark ∈ headMarks) :
    ¬ FirstWith mark before word lead value := by
  intro hfirst
  have hcarries : Carries mark word := Option.isSome_of_eq_some hfirst.cut
  rcases h with hbare | ⟨-, hearlier⟩
  · exact (by decide : ∀ word ∈ headMarks, ∀ mark ∈ headMarks, ¬ Carries mark word) word hbare mark
      hmark hcarries
  · obtain ⟨u, hu, hcarries⟩ := hearlier mark hmark hcarries
    exact hfirst.fresh u hu hcarries

/-- A word that is dropped is not noted. -/
theorem IsSilent.not_mem_filters {before : List Text} {head word : Text}
    (h : IsSilent before word) : word ∉ (ofText head).filters := by
  intro hmem
  obtain ⟨hfree, hkey⟩ := List.mem_filter.mp hmem
  obtain ⟨-, u, -, hu⟩ := mem_words_freeText.mp hfree
  have hkey : keyOf word ∉ headKeys := by
    simp only [Bool.and_eq_true] at hkey
    simpa using hkey.2
  rcases h with hbare | ⟨⟨mark, hmark, hcarries⟩ | hearliest, -⟩
  · exact hkey ((by decide : ∀ mark ∈ headMarks, keyOf mark ∈ headKeys) word hbare)
  · exact not_carries_iff.mpr (hu ▸ cutField_eraseLogSource u mark hmark) hcarries
  · obtain ⟨rest, rfl⟩ := hearliest
    exact hkey (by decide : Text.ofString "earliest" ∈ headKeys)

/-- **The words of a head that leave no trace are the head keys without a
value and the repeated ones.** -/
theorem accounted_iff_not_isSilent (head : Text) (before after : List Text) (word : Text)
    (hwords : words head = before ++ word :: after) :
    Accounted (ofText head) before word ↔ ¬ IsSilent before word := by
  constructor
  · intro haccounted hsilent
    cases haccounted with
    | index first => exact hsilent.not_first (by decide) first
    | sourcetype first => exact hsilent.not_first (by decide) first
    | source first => exact hsilent.not_first (by decide) first
    | earliest first => exact hsilent.not_first (by decide) first
    | term trace => exact not_mem_of_termPredicate trace hsilent.mem_equals
    | filter trace => exact hsilent.not_mem_filters (mem_filters_of_filterNote trace)
  · intro hloud
    have hmem : word ∈ words head := by
      rw [hwords]
      simp
    by_cases hfirst : ∃ mark ∈ headMarks, Carries mark word ∧ ¬ ∃ u ∈ before, Carries mark u
    · obtain ⟨mark, hmark, hcarries, hfresh⟩ := hfirst
      obtain ⟨lead, value, hfirst⟩ := FirstWith.exists_of_carries hcarries hfresh
      exact accounted_of_first hwords hmark hfirst
    · -- no head key is read from the word, so it must stand in the free text
      have hearlier : ∀ mark ∈ headMarks, Carries mark word → ∃ u ∈ before, Carries mark u :=
        fun mark hmark hcarries => Classical.byContradiction fun hfresh =>
          hfirst ⟨mark, hmark, hcarries, hfresh⟩
      have hlog : ∀ mark ∈ logMarks, ¬ Carries mark word := fun mark hmark hcarries =>
        hloud (.inr ⟨.inl ⟨mark, hmark, hcarries⟩, hearlier⟩)
      have hfree : word ∈ words (freeText head) :=
        mem_words_freeText.mpr ⟨(mem_words hmem).1, word, hmem,
          eraseLogSource_of_cutField fun mark hmark => not_carries_iff.mp (hlog mark hmark)⟩
      by_cases hkeyed : isKeyed word
      · have hkey : keyOf word ∉ headKeys := by
          intro hkey
          rcases mem_headMarks_or_carries hkeyed hkey with hbare | ⟨mark, hmark, hstart, hcarries⟩
          · exact hloud (.inl hbare)
          · rcases (by decide : ∀ mark ∈ headMarks, mark ∈ logMarks ∨ mark = "earliest=") mark hmark
              with hmark | rfl
            · exact hlog mark hmark hcarries
            · exact hloud (.inr ⟨.inr hstart, hearlier⟩)
        have hfilter : word ∈ (ofText head).filters :=
          List.mem_filter.mpr ⟨hfree, by simp [hkeyed, hkey]⟩
        have hnote : filterNote word ∈ (ofText head).notes :=
          List.mem_append_left _ (List.mem_append_right _ (List.mem_map_of_mem hfilter))
        exact .filter hnote
      · have hterm : word ∈ (ofText head).terms :=
          List.mem_filter.mpr ⟨hfree, by simp [hkeyed]⟩
        exact .term (List.mem_append_right _ (List.mem_map_of_mem hterm))

/-- A filter is noted, but a second index leaves no trace. -/
theorem accounted_iff_not_isSilent_second_index :
    Accounted (ofText "index=main host=a index=web") ["index=main"] "host=a" ∧
      ¬ Accounted (ofText "index=main host=a index=web") ["index=main", "host=a"] "index=web" ∧
      headToKql "index=main host=a index=web" =
        ⟨"main", [indexNote "main", filterNote "host=a"]⟩ := by
  refine ⟨?_, ?_, by decide⟩
  · exact (accounted_iff_not_isSilent _ _ ["index=web"] _ (by decide)).mpr (by decide)
  · intro haccounted
    exact (accounted_iff_not_isSilent _ _ [] _ (by decide)).mp haccounted (by decide)

end TwinQuery
