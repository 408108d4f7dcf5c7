/-
# A blank divides what a search head says

The index, the source type and the source of a head are read off its words,
and erased from them one word at a time. Passes over the whole text, which
know nothing of words, come to the same: a search from left to right for the
first place of a key (`firstValue`), and one erasure of all places for each of
the three keys, every one on what the last one left (`eraseEvery`,
`SearchHead.ofText_eq_ofPasses`).

A place of a key begins at a word boundary and ends with the value. It does
not reach over a blank, since keys and values have none, and a blank neither
opens nor closes a place, since it is no word character. So a pass treats the
text before a blank and the text after it as if they stood alone
(`searchFrom_append_blank`, `eraseFrom_append_blank`), and so does all that is
read off the passes. The earliest time is not among it: a quoted time may
hold blanks.

Key definitions: `valueAt?`, `firstValue`, `eraseEvery`,
`SearchHead.ofPasses`.
Key theorems: `valueAt?_append_blank`, `searchFrom_append_blank`,
`eraseFrom_append_blank`, `fieldValue_eq_firstValue`,
`mapWords_eraseField_eq_eraseEvery`, `SearchHead.ofText_eq_ofPasses`,
`SearchHead.ofText_divided_by_blank`.
-/
import TwinQuery.Proofs.Head

namespace TwinQuery

open Text

/-! ### Passes over a text -/

/-- The value of a key that stands at the start of a text: what follows it up
to the next blank, if that is not empty. `inWord` says whether a word
character stands before the text. -/
def valueAt? (key : Text) (inWord : Bool) (t : Text) : Option Text :=
  if inWord then none else ((dropStart? key t).map firstWord).filter fun value => value ≠ []

/-- The value of a key at its first place in a text, with the character before
the text given by `inWord` as in `valueAt?`. -/
def searchFrom (key : Text) : (inWord : Bool) → Text → Option Text
  | _, [] => none
  | inWord, c :: rest => (valueAt? key inWord (c :: rest)).or (searchFrom key (isWord c) rest)

/-- The text without the key and its value at every place of the key. `skip`
counts the characters that are left of the place that is being erased. -/
def eraseFrom (key : Text) : (skip : Nat) → (inWord : Bool) → Text → Text
  | _, _, [] => []
  | skip + 1, _, c :: rest => eraseFrom key skip (isWord c) rest
  | 0, inWord, c :: rest =>
    match valueAt? key inWord (c :: rest) with
    | some value => eraseFrom key (key.length + value.length - 1) (isWord c) rest
    | none => c :: eraseFrom key 0 (isWord c) rest

/-- The value of a key at its first place in a text. -/
def firstValue (key t : Text) : Option Text := searchFrom key false t

/-- A text without a key and its value at every place of the key. -/
def eraseEvery (key t : Text) : Text := eraseFrom key 0 false t

/-- The head without its index, source type and source terms, which are erased
by one pass each. -/
def freeTextByPasses (head : Text) : Text :=
  strip (eraseEvery "source=" (eraseEvery "sourcetype=" (eraseEvery "index=" head)))

/-- What passes over the whole text of a head find. -/
def SearchHead.ofPasses (head : Text) : SearchHead where
  index := firstValue "index=" head
  sourcetype := firstValue "sourcetype=" head
  source := firstValue "source=" head
  earliest := earliestFrom false head
  terms := (words (freeTextByPasses head)).filter fun word => !isKeyed word
  filters := (words (freeTextByPasses head)).filter fun word =>
    isKeyed word && !headKeys.contains (keyOf word)

theorem valueAt?_eq_some_iff {key t value : Text} {inWord : Bool} :
    valueAt? key inWord t = some value ↔
      inWord = false ∧ value ≠ [] ∧ ∃ after, t = key ++ after ∧ firstWord after = value := by
  cases inWord with
  | true => simp [valueAt?]
  | false =>
    simp only [valueAt?, Bool.false_eq_true, if_false, Option.filter_eq_some_iff,
      Option.map_eq_some_iff, dropStart?_eq_some_iff, decide_eq_true_eq, true_and]
    exact and_comm

theorem length_le_of_valueAt? {key t value : Text} {inWord : Bool}
    (h : valueAt? key inWord t = some value) : key.length + value.length ≤ t.length := by
  obtain ⟨-, -, after, rfl, rfl⟩ := valueAt?_eq_some_iff.mp h
  have hword : (firstWord after).length ≤ after.length := (List.takeWhile_sublist _).length_le
  rw [List.length_append]
  omega

theorem valueAt?_nil (key : Text) (inWord : Bool) : valueAt? key inWord [] = none := by
  rw [Option.eq_none_iff_forall_ne_some]
  intro value h
  obtain ⟨-, hne, after, hnil, rfl⟩ := valueAt?_eq_some_iff.mp h
  obtain ⟨-, rfl⟩ := List.append_eq_nil_iff.mp hnil.symm
  exact hne rfl

/-! ### The passes at a blank -/

section

variable {key : Text} (hkey : ∀ k ∈ key, isInk k)

include hkey

/-- **A place of a key does not reach over a blank.** -/
theorem valueAt?_append_blank {b : Text} (hb : OpensBlank b) (inWord : Bool) (t : Text) :
    valueAt? key inWord (t ++ b) = valueAt? key inWord t := by
  have hword : firstWord ∘ (· ++ b) = firstWord := by
    funext after
    exact firstWord_append_blank hb after
  rw [valueAt?, dropStart?_append_blank hb hkey, Option.map_map, hword, valueAt?]

variable {c : CodePoint} (hc : isBlank c) (b : Text)

include hc

theorem valueAt?_cons_blank (inWord : Bool) : valueAt? key inWord (c :: b) = none := by
  have hopen := valueAt?_append_blank hkey (opensBlank_cons hc b) inWord []
  rw [List.nil_append] at hopen
  rw [hopen, valueAt?_nil]

theorem searchFrom_append_blank : ∀ (a : Text) (inWord : Bool),
    searchFrom key inWord (a ++ c :: b) = (searchFrom key inWord a).or (searchFrom key false b)
  | [], inWord => by
    simp only [List.nil_append, searchFrom, valueAt?_cons_blank hkey hc, isWord_of_isBlank hc]
  | d :: a, inWord => by
    have hvalue := valueAt?_append_blank hkey (opensBlank_cons hc b) inWord (d :: a)
    rw [List.cons_append] at hvalue ⊢
    rw [searchFrom, hvalue, searchFrom_append_blank a, ← Option.or_assoc, searchFrom]

theorem eraseFrom_append_blank : ∀ (a : Text) (skip : Nat) (inWord : Bool), skip ≤ a.length →
    eraseFrom key skip inWord (a ++ c :: b) = eraseFrom key skip inWord a ++ c :: eraseEvery key b
  | [], 0, inWord, _ => by
    simp only [List.nil_append, eraseFrom, valueAt?_cons_blank hkey hc, isWord_of_isBlank hc,
      eraseEvery]
  | [], skip + 1, _, h => absurd h (Nat.not_succ_le_zero skip)
  | d :: a, skip + 1, inWord, h => by
    rw [List.cons_append, eraseFrom, eraseFrom]
    exact eraseFrom_append_blank a skip _ (Nat.le_of_succ_le_succ h)
  | d :: a, 0, inWord, _ => by
    have hvalue := valueAt?_append_blank hkey (opensBlank_cons hc b) inWord (d :: a)
    rw [List.cons_append] at hvalue ⊢
    rw [eraseFrom, eraseFrom, hvalue]
    cases h : valueAt? key inWord (d :: a) with
    | none => exact congrArg (d :: ·) (eraseFrom_append_blank a 0 _ (Nat.zero_le _))
    | some value =>
      -- the place ends before the blank, so that what is skipped does too
      have hlength := length_le_of_valueAt? h
      rw [List.length_cons] at hlength
      exact eraseFrom_append_blank a _ _ (by omega)

theorem firstValue_append_blank (a : Text) :
    firstValue key (a ++ c :: b) = (firstValue key a).or (firstValue key b) :=
  searchFrom_append_blank hkey hc b a false

theorem eraseEvery_append_blank (a : Text) :
    eraseEvery key (a ++ c :: b) = eraseEvery key a ++ c :: eraseEvery key b :=
  eraseFrom_append_blank hkey hc b a 0 false (Nat.zero_le _)

end

/-! ### The passes over one word -/

theorem eraseFrom_of_length_le (key : Text) : ∀ {t : Text} {skip : Nat} {inWord : Bool},
    t.length ≤ skip → eraseFrom key skip inWord t = []
  | [], _, _, _ => by rw [eraseFrom]
  | c :: t, 0, _, h => absurd h (Nat.not_succ_le_zero t.length)
  | c :: t, skip + 1, _, h => by
    rw [eraseFrom]
    exact eraseFrom_of_length_le key (Nat.le_of_succ_le_succ h)

/-- In one word the value of a key goes on to the end. -/
theorem cutFieldFrom_of_valueAt? {key t value : Text} {inWord : Bool} (hink : ∀ c ∈ t, isInk c)
    (h : valueAt? key inWord t = some value) :
    t = key ++ value ∧ cutFieldFrom key inWord t = some ([], value) := by
  obtain ⟨rfl, hne, after, rfl, rfl⟩ := valueAt?_eq_some_iff.mp h
  have hafter : firstWord after = after :=
    firstWord_of_ink fun c hc => hink c (List.mem_append_right _ hc)
  rw [hafter] at hne ⊢
  obtain ⟨v, value, rfl⟩ := List.exists_cons_of_ne_nil hne
  have hdrop : dropStart? key (key ++ v :: value) = some (v :: value) :=
    dropStart?_eq_some_iff.mpr rfl
  refine ⟨rfl, ?_⟩
  cases hword : key ++ v :: value with
  | nil => simp at hword
  | cons c rest =>
    rw [hword] at hdrop
    simp only [cutFieldFrom, Bool.false_eq_true, if_false, hdrop]

theorem cutFieldFrom_of_valueAt?_eq_none {key rest : Text} {c : CodePoint} {inWord : Bool}
    (hink : ∀ d ∈ c :: rest, isInk d) (h : valueAt? key inWord (c :: rest) = none) :
    cutFieldFrom key inWord (c :: rest) =
      (cutFieldFrom key (isWord c) rest).map fun (before, value) => (c :: before, value) := by
  rw [cutFieldFrom]
  split
  · rename_i v value hdrop
    cases inWord with
    | true => cases hdrop
    | false =>
      have hword : c :: rest = key ++ v :: value := dropStart?_eq_some_iff.mp hdrop
      have hvalue : valueAt? key false (c :: rest) = some (v :: value) := by
        refine valueAt?_eq_some_iff.mpr ⟨rfl, by simp, v :: value, hword, firstWord_of_ink ?_⟩
        intro d hd
        exact hink d (hword ▸ List.mem_append_right key hd)
      rw [hvalue] at h
      cases h
  · rfl

theorem searchFrom_of_ink (key : Text) : ∀ {t : Text} {inWord : Bool}, (∀ c ∈ t, isInk c) →
    searchFrom key inWord t = (cutFieldFrom key inWord t).map Prod.snd
  | [], _, _ => rfl
  | c :: t, inWord, hink => by
    rw [searchFrom]
    cases h : valueAt? key inWord (c :: t) with
    | some value => rw [(cutFieldFrom_of_valueAt? hink h).2]; rfl
    | none =>
      rw [cutFieldFrom_of_valueAt?_eq_none hink h, Option.none_or, Option.map_map,
        searchFrom_of_ink key fun d hd => hink d (List.mem_cons_of_mem c hd)]
      rfl

theorem eraseFrom_of_ink (key : Text) : ∀ {t : Text} {inWord : Bool}, (∀ c ∈ t, isInk c) →
    eraseFrom key 0 inWord t = ((cutFieldFrom key inWord t).map Prod.fst).getD t
  | [], _, _ => rfl
  | c :: t, inWord, hink => by
    rw [eraseFrom]
    cases h : valueAt? key inWord (c :: t) with
    | some value =>
      obtain ⟨hword, hcut⟩ := cutFieldFrom_of_valueAt? hink h
      have hlength := congrArg List.length hword
      rw [List.length_cons, List.length_append] at hlength
      rw [hcut]
      exact eraseFrom_of_length_le key (by omega)
    | none =>
      have hrest : ∀ d ∈ t, isInk d := fun d hd => hink d (List.mem_cons_of_mem c hd)
      rw [cutFieldFrom_of_valueAt?_eq_none hink h, eraseFrom_of_ink key hrest]
      cases cutFieldFrom key (isWord c) t <;> rfl

/-! ### Passes and words -/

theorem fieldValue_append_blank (key : Text) {c : CodePoint} (hc : isBlank c) (a b : Text) :
    fieldValue key (a ++ c :: b) = (fieldValue key a).or (fieldValue key b) := by
  rw [fieldValue, words_append_blank hc, List.findSome?_append]
  rfl

theorem fieldValue_of_ink (key : Text) {t : Text} (hink : ∀ c ∈ t, isInk c) :
    fieldValue key t = (cutField key t).map Prod.snd := by
  cases t with
  | nil => rfl
  | cons c t => rw [fieldValue, words_of_ink hink, List.findSome?_singleton]

/-- The first word that carries a key carries its first place in the text. -/
theorem fieldValue_eq_firstValue {key : Text} (hkey : ∀ k ∈ key, isInk k) (t : Text) :
    fieldValue key t = firstValue key t := by
  induction t using blankInduction with
  | ink t ht => rw [fieldValue_of_ink key ht, firstValue, searchFrom_of_ink key ht, cutField]
  | blank a c b hc iha ihb =>
    rw [fieldValue_append_blank key hc, iha, ihb, firstValue_append_blank hkey hc]

theorem mapWords_of_ink_of_nil {f : Text → Text} (hnil : f [] = []) {t : Text}
    (hink : ∀ c ∈ t, isInk c) : mapWords f t = f t := by
  cases t with
  | nil => exact hnil.symm
  | cons c t => exact mapWords_of_ink f hink

/-- A pass that erases a key erases it from each word. -/
theorem mapWords_eraseField_eq_eraseEvery {key : Text} (hkey : ∀ k ∈ key, isInk k) (t : Text) :
    mapWords (eraseField key) t = eraseEvery key t := by
  induction t using blankInduction with
  | ink t ht =>
    rw [mapWords_of_ink_of_nil rfl ht, eraseEvery, eraseFrom_of_ink key ht, eraseField, cutField]
  | blank a c b hc iha ihb =>
    rw [mapWords_append_blank _ hc, iha, ihb, eraseEvery_append_blank hkey hc]

/-- Words that stay words, or vanish, can be mapped in two rounds. -/
theorem mapWords_mapWords {f g : Text → Text} (hf : f [] = []) (hg : g [] = [])
    (hsub : ∀ w, g w ⊆ w) (t : Text) : mapWords f (mapWords g t) = mapWords (fun w => f (g w)) t := by
  induction t using blankInduction with
  | ink t ht =>
    have hfg : f (g []) = [] := by rw [hg, hf]
    rw [mapWords_of_ink_of_nil hg ht, mapWords_of_ink_of_nil hf fun c hc => ht c (hsub t hc),
      mapWords_of_ink_of_nil hfg ht]
  | blank a c b hc iha ihb =>
    rw [mapWords_append_blank g hc, mapWords_append_blank f hc, mapWords_append_blank _ hc, iha, ihb]

/-! ### The head -/

theorem isInk_logKeys :
    (∀ k ∈ Text.ofString "index=", isInk k) ∧ (∀ k ∈ Text.ofString "sourcetype=", isInk k) ∧
      ∀ k ∈ Text.ofString "source=", isInk k :=
  ⟨List.all_eq_true.mp rfl, List.all_eq_true.mp rfl, List.all_eq_true.mp rfl⟩

/-- **Erasing three keys word by word is erasing them in three passes.** -/
theorem freeText_eq_freeTextByPasses (head : Text) : freeText head = freeTextByPasses head := by
  obtain ⟨hindex, hsourcetype, hsource⟩ := isInk_logKeys
  rw [freeTextByPasses, ← mapWords_eraseField_eq_eraseEvery hindex,
    ← mapWords_eraseField_eq_eraseEvery hsourcetype, ← mapWords_eraseField_eq_eraseEvery hsource,
    mapWords_mapWords rfl rfl (eraseField_subset _), mapWords_mapWords rfl rfl (eraseField_subset _)]
  rfl

/-- What a head says is what passes over its whole text find. -/
theorem SearchHead.ofText_eq_ofPasses (head : Text) : ofText head = ofPasses head := by
  obtain ⟨hindex, hsourcetype, hsource⟩ := isInk_logKeys
  rw [ofText, ofPasses, freeText_eq_freeTextByPasses, fieldValue_eq_firstValue hindex,
    fieldValue_eq_firstValue hsourcetype, fieldValue_eq_firstValue hsource]

theorem words_freeTextByPasses_append {c : CodePoint} (hc : isBlank c) (a b : Text) :
    words (freeTextByPasses (a ++ c :: b)) =
      words (freeTextByPasses a) ++ words (freeTextByPasses b) := by
  obtain ⟨hindex, hsourcetype, hsource⟩ := isInk_logKeys
  simp only [freeTextByPasses, words_strip]
  rw [eraseEvery_append_blank hindex hc, eraseEvery_append_blank hsourcetype hc,
    eraseEvery_append_blank hsource hc, words_append_blank hc]

/-- **A blank divides what a head says.** Although index, source type, source,
words and filters are what passes over the whole text of a head find, a head
with a blank in it says what the text before the blank and the text after it
say: the words and the filters of the one followed by those of the other, and
index, source type and source of the one, or else of the other. -/
theorem SearchHead.ofText_divided_by_blank :
    (∀ head : Text, ofText head = ofPasses head) ∧
      ∀ (c : CodePoint), isBlank c → ∀ a b : Text,
        (ofText (a ++ c :: b)).terms = (ofText a).terms ++ (ofText b).terms ∧
        (ofText (a ++ c :: b)).filters = (ofText a).filters ++ (ofText b).filters ∧
        (ofText (a ++ c :: b)).index = (ofText a).index.or (ofText b).index ∧
        (ofText (a ++ c :: b)).sourcetype = (ofText a).sourcetype.or (ofText b).sourcetype ∧
        (ofText (a ++ c :: b)).source = (ofText a).source.or (ofText b).source := by
  refine ⟨ofText_eq_ofPasses, fun c hc a b => ?_⟩
  obtain ⟨hindex, hsourcetype, hsource⟩ := isInk_logKeys
  have hfree := words_freeTextByPasses_append hc a b
  simp only [ofText_eq_ofPasses]
  refine ⟨?_, ?_, ?_, ?_, ?_⟩
  · simp only [ofPasses, hfree, List.filter_append]
  · simp only [ofPasses, hfree, List.filter_append]
  · exact firstValue_append_blank hindex hc b a
  · exact firstValue_append_blank hsourcetype hc b a
  · exact firstValue_append_blank hsource hc b a

/-- A key before the blank and a text after it that could be its value, and an
index after a hyphen, of which the hyphen is left. -/
theorem SearchHead.ofText_divided_by_blank_key :
    isBlank '\u2003' ∧
      ofText "err index=\u2003main -index=web source=/v code=5" =
        { index := some "web", sourcetype := none, source := some "/v", earliest := none,
          terms := ["err", "main", "-"], filters := ["code=5"] } ∧
      (ofText "err index=\u2003main -index=web source=/v code=5").terms =
        (ofText "err index=").terms ++ (ofText "main -index=web source=/v code=5").terms ∧
      (ofText "err index=\u2003main -index=web source=/v code=5").index =
        (ofText "err index=").index.or (ofText "main -index=web source=/v code=5").index := by
  have hblank : isBlank '\u2003' := by decide
  have htext : Text.ofString "err index=\u2003main -index=web source=/v code=5" =
      Text.ofString "err index=" ++ .char '\u2003' :: "main -index=web source=/v code=5" := by
    decide +kernel
  have hdivided := ofText_divided_by_blank.2 '\u2003' hblank "err index="
    "main -index=web source=/v code=5"
  rw [← htext] at hdivided
  exact ⟨hblank, by decide +kernel, hdivided.1, hdivided.2.2.1⟩

end TwinQuery
