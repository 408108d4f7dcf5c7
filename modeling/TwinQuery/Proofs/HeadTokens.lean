/-
# Search heads made of well-formed words

A well-formed word of a search head is a log source term, an earliest time
relative to now, a word to look for, or a filter on another field, and has a
head key nowhere but at its start (`HeadToken`). What is read from such a head
is read word by word: a key is found in the words that begin with it and in no
other (`HeadToken.cutField_text`), a log source term is erased as a whole, and
every other word is left as it is (`HeadToken.words_eraseLogSource_text`). The
time is read off the text of the head and not off its words, but a relative
time ends with its unit, whatever follows it (`RelativeTime.timeValue?_text`).

So a head of such words says what they say (`ofText_of_words`). When no key
occurs twice, the order of the words matters only among the words to look for
and among the filters (`headToKql_of_spaced`).

Key definitions: `HeadToken`, `RelativeTime`, `Spaced`, `AtMostOnce`.
Key theorems: `isInfix_append_equals`, `HeadToken.cutField_text`,
`RelativeTime.timeValue?_text`, `ofText_of_words`, `headToKql_of_spaced`.
-/
import Mathlib.Data.List.Basic
import TwinQuery.Proofs.HeadWords

namespace TwinQuery

open Text

/-! ### Texts without a head key -/

/-- A text in which no head key stands before an equals sign. -/
def Unmarked (t : Text) : Prop := ∀ mark ∈ headMarks, hasPart mark t = false

instance (t : Text) : Decidable (Unmarked t) := List.decidableBAll _ headMarks

theorem exists_key_of_mem_headMarks {mark : Text} (h : mark ∈ headMarks) :
    ∃ key : Text, .char '=' ∉ key ∧ mark = key ++ [.char '='] := by
  obtain ⟨key, hkey, heq⟩ :=
    (by decide : ∀ mark ∈ headMarks, ∃ key ∈ headKeys, mark = key ++ [.char '=']) mark h
  exact ⟨key, (by decide : ∀ key ∈ headKeys, .char '=' ∉ key) key hkey, heq⟩

theorem Unmarked.not_isInfix {t mark : Text} (h : Unmarked t) (hmark : mark ∈ headMarks) :
    ¬ mark <:+: t := by
  rw [← hasPart_iff_isInfix, h mark hmark]
  simp

theorem unmarked_of_not_mem {t : Text} (h : .char '=' ∉ t) : Unmarked t := by
  intro mark hmark
  rw [Bool.eq_false_iff, Ne, hasPart_iff_isInfix]
  intro hpart
  exact h (hpart.subset ((by decide : ∀ mark ∈ headMarks, .char '=' ∈ mark) mark hmark))

/-- What ends with its only equals sign stands before the first equals sign of
a text or after it. -/
theorem isInfix_append_equals {m key value : Text} (hm : .char '=' ∉ m) (hkey : .char '=' ∉ key)
    (h : m ++ [.char '='] <:+: key ++ .char '=' :: value) :
    m ++ [.char '='] <:+: key ++ [.char '='] ∨ m ++ [.char '='] <:+: value := by
  obtain ⟨s, t, hst⟩ := h
  have hsplit : (s ++ m) ++ .char '=' :: t = key ++ .char '=' :: value := by simpa using hst
  rcases List.append_eq_append_iff.mp hsplit with ⟨a, hkey', hrest⟩ | ⟨a, hsm, hrest⟩
  · -- the sign that ends `m` stands at the first one of the text
    cases a with
    | nil => exact .inl ⟨s, [], by simp [hkey']⟩
    | cons c a =>
      obtain ⟨rfl, -⟩ := List.cons.inj hrest
      exact absurd (by simp [hkey']) hkey
  · cases a with
    | nil => exact .inl ⟨s, [], by simpa using congrArg (· ++ [CodePoint.char '=']) hsm⟩
    | cons c a =>
      obtain ⟨rfl, hvalue⟩ := List.cons.inj hrest
      have hsm : s ++ m = (key ++ [.char '=']) ++ a := by simpa using hsm
      -- `m` has no sign in it, so it does not reach back over the first one
      rcases List.append_eq_append_iff.mp hsm with ⟨b, hb, hmb⟩ | ⟨b, hb, hab⟩
      · rcases List.eq_nil_or_concat b with rfl | ⟨b, d, rfl⟩
        · exact .inr ⟨[], t, by rw [hvalue, hmb]; simp⟩
        · have hd : d = '=' := by
            have hlast := congrArg List.getLast? hb
            simpa [List.getLast?_append] using hlast.symm
          exact absurd (by simp [hmb, hd]) hm
      · exact .inr ⟨b, t, by rw [hvalue, hab]; simp⟩

/-- Before a value without head keys no other head key is made up. -/
theorem not_isInfix_mark_append {mark other value : Text} (hmark : mark ∈ headMarks)
    (hother : other ∈ headMarks) (hne : mark ≠ other) (hvalue : Unmarked value) :
    ¬ mark <:+: other ++ value := by
  intro hpart
  have hapart : ∀ a ∈ headMarks, ∀ b ∈ headMarks, hasPart a b → a = b := by decide
  obtain ⟨m, hm, hmeq⟩ := exists_key_of_mem_headMarks hmark
  obtain ⟨key, hkey, hkeyeq⟩ := exists_key_of_mem_headMarks hother
  rw [hmeq, hkeyeq, List.append_assoc, List.singleton_append] at hpart
  rcases isInfix_append_equals hm hkey hpart with h | h
  · rw [← hmeq, ← hkeyeq, ← hasPart_iff_isInfix] at h
    exact hne (hapart mark hmark other hother h)
  · rw [← hmeq] at h
    exact hvalue.not_isInfix hmark h

theorem cutField_eq_none_of_not_isInfix {mark word : Text} (h : ¬ mark <:+: word) :
    cutField mark word = none := by
  cases hcut : cutField mark word with
  | none => rfl
  | some parts =>
    refine absurd ⟨parts.1, parts.2, ?_⟩ h
    rw [(cutFieldFrom_eq_some hcut).1, List.append_assoc]

/-! ### Relative times -/

/-- A number of seconds, minutes, hours or days, with or without a minus
sign. -/
structure RelativeTime where
  back : Bool
  digits : Text
  unit : CodePoint
  digits_ne_nil : digits ≠ []
  digits_ascii : ∀ d ∈ digits, d.isDigit
  unit_mem : unit ∈ [.char 's', .char 'm', .char 'h', .char 'd']
deriving DecidableEq

namespace RelativeTime

/-- The span of time, without the sign. -/
def span (time : RelativeTime) : Text := time.digits ++ [time.unit]

/-- A time as it is written. -/
def text (time : RelativeTime) : Text := (if time.back then [.char '-'] else []) ++ time.span

variable (time : RelativeTime)

theorem isDigit_of_mem {d : CodePoint} (h : d ∈ time.digits) : isDigit d := by
  have hascii := time.digits_ascii d h
  have hlow : d.toNat < 128 := Nat.lt_of_le_of_lt (CodePoint.toNat_of_isDigit hascii).2 (by decide)
  rw [isDigit, if_pos hlow]
  exact hascii

theorem isSpan_span : IsSpan time.span :=
  ⟨time.digits, time.unit, time.digits_ne_nil, fun _ hd => time.isDigit_of_mem hd, time.unit_mem,
    rfl⟩

theorem isAmount_text : IsAmount time.text := by
  unfold text
  cases time.back with
  | true => exact .inr ⟨time.span, time.isSpan_span, rfl⟩
  | false => exact .inl time.isSpan_span

theorem unmarked_text : Unmarked time.text :=
  unmarked_of_not_mem (time.isAmount_text.not_mem (by decide) (by decide) (by decide))

theorem unquote_text : unquote time.text = time.text :=
  unquote_of_not_mem (time.isAmount_text.not_mem (by decide) (by decide) (by decide))

/-- The span of a relative time is what is passed on. -/
theorem timespanOfEarliest_text : timespanOfEarliest time.text = time.span := by
  rw [timespanOfEarliest, unquote_text, text]
  cases time.back with
  | true => exact List.erase_cons_head ..
  | false => exact List.erase_of_not_mem (time.isSpan_span.not_mem (by decide) (by decide))

/-- The predicate on a relative time. -/
def predicate : Text := "TimeGenerated >= ago(" ++ time.span ++ ")"

/-- The note on a relative time. -/
def note : Text := "Translated earliest=" ++ time.text ++ " to ago()"

theorem timePredicate_text : SearchHead.timePredicate time.text = time.predicate := by
  rw [SearchHead.timePredicate, timespanOfEarliest_text, predicate]

theorem earliestNote_text : SearchHead.earliestNote time.text = time.note := by
  rw [SearchHead.earliestNote, unquote_text, note]

/-- **A relative time ends with its unit,** whatever follows. -/
theorem timeValue?_text (r : Text) : timeValue? (time.text ++ r) = some time.text := by
  have hread : relativeTime? (time.text ++ r) = some time.text :=
    relativeTime?_eq_some_iff.mpr ⟨time.isAmount_text, List.prefix_append _ _⟩
  obtain ⟨c, word, hcons⟩ := List.exists_cons_of_ne_nil time.isAmount_text.ne_nil
  have hc : isInk c := time.isAmount_text.ink c (by simp [hcons])
  rw [timeValue?, hread, hcons]
  simp [hc]

end RelativeTime

/-! ### Words of a head -/

/-- The keys of the terms on a log source. -/
inductive LogKey where
  | index
  | sourcetype
  | source
deriving DecidableEq

/-- A key as it is written. -/
def LogKey.mark : LogKey → Text
  | .index => "index="
  | .sourcetype => "sourcetype="
  | .source => "source="

theorem LogKey.mark_mem (key : LogKey) : key.mark ∈ headMarks := by cases key <;> decide

/-- A text that can stand as a word. -/
def IsWordText (t : Text) : Prop := t ≠ [] ∧ ∀ c ∈ t, isInk c

instance (t : Text) : Decidable (IsWordText t) :=
  decidable_of_iff (t ≠ [] ∧ t.all isInk) (and_congr_right fun _ => List.all_eq_true)

theorem IsWordText.words_eq {t : Text} (h : IsWordText t) : words t = [t] := by
  obtain ⟨hne, hink⟩ := h
  obtain ⟨c, t, rfl⟩ := List.exists_cons_of_ne_nil hne
  exact words_of_ink hink

/-- A well-formed word of a search head. A head key stands nowhere in it but
at the start of a word of that kind: not in a value, not in a filter, which
so has another key, and not in a word to look for, which has no equals
sign. -/
inductive HeadToken where
  | log (key : LogKey) (value : { v : Text // IsWordText v ∧ Unmarked v })
  | earliest (time : RelativeTime)
  | term (word : { w : Text // IsWordText w ∧ .char '=' ∉ w })
  | filter (word : { w : Text // IsWordText w ∧ .char '=' ∈ w ∧ Unmarked w })
deriving DecidableEq

namespace HeadToken

/-- The head key that a word begins with, with its sign; nothing when there is
none. -/
def mark : HeadToken → Text
  | .log key _ => key.mark
  | .earliest _ => "earliest="
  | .term _ => []
  | .filter _ => []

/-- What stands after the head key. -/
def value : HeadToken → Text
  | .log _ value => value
  | .earliest time => time.text
  | .term word => word
  | .filter word => word

/-- A word as it is written. -/
def text (t : HeadToken) : Text := t.mark ++ t.value

/-- The value of a log source term with the given key. -/
def logValue? (key : LogKey) : HeadToken → Option Text
  | .log k value => if k = key then some value else none
  | _ => none

/-- The time of an earliest time. -/
def time? : HeadToken → Option RelativeTime
  | .earliest time => some time
  | _ => none

/-- A word to look for. -/
def term? : HeadToken → Option Text
  | .term word => some word
  | _ => none

/-- A filter. -/
def filter? : HeadToken → Option Text
  | .filter word => some word
  | _ => none

theorem isWordText_value : ∀ t : HeadToken, IsWordText t.value
  | .log _ value => value.2.1
  | .earliest time => ⟨time.isAmount_text.ne_nil, time.isAmount_text.ink⟩
  | .term word => word.2.1
  | .filter word => word.2.1

theorem unmarked_value : ∀ t : HeadToken, Unmarked t.value
  | .log _ value => value.2.2
  | .earliest time => time.unmarked_text
  | .term word => unmarked_of_not_mem word.2.2
  | .filter word => word.2.2.2

theorem mark_eq_nil_or_mem : ∀ t : HeadToken, t.mark = [] ∨ t.mark ∈ headMarks
  | .log key _ => .inr key.mark_mem
  | .earliest _ => .inr (by decide : Text.ofString "earliest=" ∈ headMarks)
  | .term _ => .inl rfl
  | .filter _ => .inl rfl

theorem isWordText_text (t : HeadToken) : IsWordText t.text := by
  obtain ⟨hne, hink⟩ := t.isWordText_value
  have hmark : ∀ c ∈ t.mark, isInk c := by
    rcases t.mark_eq_nil_or_mem with h | h
    · simp [h]
    · exact List.all_eq_true.mp ((by decide : ∀ mark ∈ headMarks, mark.all isInk) t.mark h)
  refine ⟨by simp [text, hne], fun c hc => ?_⟩
  exact (List.mem_append.mp hc).elim (hmark c) (hink c)

/-- **A head key is found at the start of the words of its kind** and nowhere
else. -/
theorem cutField_text {mark : Text} (hmark : mark ∈ headMarks) (t : HeadToken) :
    cutField mark t.text = if t.mark = mark then some ([], t.value) else none := by
  split
  · rename_i heq
    have hne : mark ≠ [] := (by decide : ∀ mark ∈ headMarks, mark ≠ []) mark hmark
    rw [text, heq]
    exact cutField_append hne t.isWordText_value.1
  · rename_i hne
    apply cutField_eq_none_of_not_isInfix
    rcases t.mark_eq_nil_or_mem with hnil | hmem
    · rw [text, hnil]
      exact t.unmarked_value.not_isInfix hmark
    · exact not_isInfix_mark_append hmark hmem (Ne.symm hne) t.unmarked_value

theorem cutField_mark_text (key : LogKey) (t : HeadToken) :
    cutField key.mark t.text = (t.logValue? key).map fun value => ([], value) := by
  rw [cutField_text key.mark_mem]
  cases t with
  | log k value => cases k <;> cases key <;> rfl
  | earliest time => cases key <;> rfl
  | term word => cases key <;> rfl
  | filter word => cases key <;> rfl

theorem cutField_earliest_text (t : HeadToken) :
    cutField "earliest=" t.text = t.time?.map fun time => ([], time.text) := by
  rw [cutField_text (by decide)]
  cases t with
  | log key value => cases key <;> rfl
  | earliest time => rfl
  | term word => rfl
  | filter word => rfl

/-! ### What is left of a word -/

/-- A word that is no log source term, as it is written. -/
def freeWord? : HeadToken → Option Text
  | .log _ _ => none
  | t => some t.text

theorem eraseField_mark_log (key k : LogKey) (value : { v : Text // IsWordText v ∧ Unmarked v }) :
    eraseField k.mark (log key value).text = if key = k then [] else (log key value).text := by
  rw [eraseField, cutField_mark_text, logValue?]
  split <;> rfl

theorem eraseLogSource_text_of_not_mem {t : HeadToken} (h : t.mark ∉ logMarks) :
    eraseLogSource t.text = t.text := by
  refine eraseLogSource_of_cutField fun mark hmark => ?_
  have hhead : mark ∈ headMarks :=
    (by decide : ∀ mark ∈ logMarks, mark ∈ headMarks) mark hmark
  rw [cutField_text hhead, if_neg]
  rintro rfl
  exact h hmark

/-- **A log source term is erased as a whole,** and every other word is left
as it is. -/
theorem eraseLogSource_text (t : HeadToken) : eraseLogSource t.text = t.freeWord?.getD [] := by
  cases t with
  | log key value =>
    have herase : eraseLogSource (log key value).text =
        eraseField LogKey.source.mark (eraseField LogKey.sourcetype.mark
          (eraseField LogKey.index.mark (log key value).text)) := rfl
    have hnil : ∀ k : LogKey, eraseField k.mark [] = [] := fun _ => rfl
    rw [herase, eraseField_mark_log]
    cases key with
    | index => rw [if_pos rfl, hnil, hnil]; rfl
    | sourcetype => rw [if_neg (by decide), eraseField_mark_log, if_pos rfl, hnil]; rfl
    | source =>
      rw [if_neg (by decide), eraseField_mark_log, if_neg (by decide), eraseField_mark_log,
        if_pos rfl]
      rfl
  | earliest time => exact eraseLogSource_text_of_not_mem (by decide : Text.ofString "earliest=" ∉ logMarks)
  | term word => exact eraseLogSource_text_of_not_mem (by decide : [] ∉ logMarks)
  | filter word => exact eraseLogSource_text_of_not_mem (by decide : [] ∉ logMarks)

theorem words_eraseLogSource_text (t : HeadToken) :
    words (eraseLogSource t.text) = t.freeWord?.toList := by
  have hword := t.isWordText_text.words_eq
  rw [eraseLogSource_text]
  cases t with
  | log key value => rfl
  | earliest time => exact hword
  | term word => exact hword
  | filter word => exact hword

/-- The key of a filter is none of the head keys. -/
theorem keyOf_not_mem_headKeys {word : Text} (hkeyed : isKeyed word) (h : Unmarked word) :
    keyOf word ∉ headKeys := by
  intro hkey
  obtain ⟨rest, hword⟩ := eq_keyOf_append hkeyed
  have hmark := (by decide : ∀ key ∈ headKeys, key ++ [.char '='] ∈ headMarks) _ hkey
  refine h.not_isInfix hmark ⟨[], rest, ?_⟩
  rw [List.nil_append, List.append_assoc, List.singleton_append]
  exact hword.symm

/-- Of the words that are left, those without an equals sign are looked
for. -/
theorem filter_freeWord?_term (t : HeadToken) :
    t.freeWord?.filter (fun word => !isKeyed word) = t.term? := by
  cases t with
  | log key value => rfl
  | earliest time => rfl
  | term word =>
    have hplain : isKeyed word.1 = false := by simpa [isKeyed] using word.2.2
    exact Option.filter_some_pos (by simp [text, mark, value, hplain])
  | filter word =>
    have hkeyed : isKeyed word.1 := by simpa [isKeyed] using word.2.2.1
    exact Option.filter_some_neg (by simp [text, mark, value, hkeyed])

/-- And those with an equals sign and without a head key are noted. -/
theorem filter_freeWord?_filter (t : HeadToken) :
    t.freeWord?.filter (fun word => isKeyed word && !headKeys.contains (keyOf word)) = t.filter? := by
  cases t with
  | log key value => rfl
  | earliest time => rfl
  | term word =>
    have hplain : isKeyed word.1 = false := by simpa [isKeyed] using word.2.2
    exact Option.filter_some_neg (by simp [text, mark, value, hplain])
  | filter word =>
    have hkeyed : isKeyed word.1 := by simpa [isKeyed] using word.2.2.1
    have hkey := keyOf_not_mem_headKeys hkeyed word.2.2.2
    exact Option.filter_some_pos (by simp [text, mark, value, hkeyed, hkey])

/-! ### What a head of such words says -/

/-- What the words of a head say. -/
def searchHead (tokens : List HeadToken) : SearchHead where
  index := tokens.findSome? (logValue? .index)
  sourcetype := tokens.findSome? (logValue? .sourcetype)
  source := tokens.findSome? (logValue? .source)
  earliest := (tokens.findSome? time?).map RelativeTime.text
  terms := tokens.filterMap term?
  filters := tokens.filterMap filter?

section

variable {tokens : List HeadToken} {head : Text} (hwords : words head = tokens.map text)

include hwords

theorem fieldValue_of_words (key : LogKey) :
    fieldValue key.mark head = tokens.findSome? (logValue? key) := by
  rw [fieldValue, hwords, List.findSome?_map]
  congr 1
  funext t
  rw [Function.comp_apply, cutField_mark_text]
  cases t.logValue? key <;> rfl

theorem words_freeText_of_words : words (freeText head) = tokens.filterMap freeWord? := by
  rw [freeText, words_strip, words_mapWords, hwords, List.flatMap_map,
    List.filterMap_eq_flatMap_toList]
  congr 1
  funext t
  exact words_eraseLogSource_text t

theorem earliestFrom_of_words :
    earliestFrom false head = (tokens.findSome? time?).map RelativeTime.text := by
  cases hfind : tokens.findSome? time? with
  | none =>
    refine earliestFrom_of_not_carries fun u hu => ?_
    rw [hwords] at hu
    obtain ⟨t, ht, rfl⟩ := List.mem_map.mp hu
    rw [not_carries_iff, cutField_earliest_text, List.findSome?_eq_none_iff.mp hfind t ht]
    rfl
  | some time =>
    obtain ⟨before, t, after, rfl, ht, hbefore⟩ := List.findSome?_eq_some_iff.mp hfind
    have hfirst : FirstWith "earliest=" (before.map text) t.text [] time.text := by
      refine ⟨by rw [cutField_earliest_text, ht]; rfl, fun u hu => ?_⟩
      obtain ⟨s, hs, rfl⟩ := List.mem_map.mp hu
      rw [not_carries_iff, cutField_earliest_text, hbefore s hs]
      rfl
    rw [List.map_append, List.map_cons] at hwords
    obtain ⟨r, hread⟩ := earliestFrom_of_first hwords hfirst
    have hr := hread.scan
    rw [hr, time.timeValue?_text]
    rfl

/-- **A head says what its words say.** -/
theorem ofText_of_words : SearchHead.ofText head = searchHead tokens := by
  have hfree := words_freeText_of_words hwords
  have hterms : (words (freeText head)).filter (fun word => !isKeyed word) =
      tokens.filterMap term? := by
    rw [hfree, List.filter_filterMap]
    congr 1
    funext t
    exact filter_freeWord?_term t
  have hfilters : (words (freeText head)).filter
      (fun word => isKeyed word && !headKeys.contains (keyOf word)) = tokens.filterMap filter? := by
    rw [hfree, List.filter_filterMap]
    congr 1
    funext t
    exact filter_freeWord?_filter t
  have hindex : fieldValue "index=" head = _ := fieldValue_of_words hwords .index
  have hsourcetype : fieldValue "sourcetype=" head = _ := fieldValue_of_words hwords .sourcetype
  have hsource : fieldValue "source=" head = _ := fieldValue_of_words hwords .source
  rw [SearchHead.ofText, hindex, hsourcetype, hsource, earliestFrom_of_words hwords, hterms, hfilters,
    searchHead]

end

/-! ### The KQL of a head of such words -/

/-- The table that the words ask for. -/
def table (tokens : List HeadToken) : Text :=
  match tokens.filterMap (logValue? .index) with
  | [] => placeholderTable
  | index :: _ => tableOfIndex index

/-- The predicates of the words: the time, the source type, the source, and
the words to look for in their order. -/
def predicates (tokens : List HeadToken) : List Text :=
  (tokens.filterMap time?).map RelativeTime.predicate ++
    (tokens.filterMap (logValue? .sourcetype)).map SearchHead.sourcetypePredicate ++
    (tokens.filterMap (logValue? .source)).map SearchHead.sourcePredicate ++
    (tokens.filterMap term?).map SearchHead.termPredicate

/-- The notes on the words: the index, the filters in their order, and the
time. -/
def notes (tokens : List HeadToken) : List Text :=
  (tokens.filterMap (logValue? .index)).map SearchHead.indexNote ++
    (tokens.filterMap filter?).map SearchHead.filterNote ++
    (tokens.filterMap time?).map RelativeTime.note

/-- The KQL of the words. -/
def kql (tokens : List HeadToken) : Fragment :=
  ⟨table tokens ++
      (if predicates tokens = [] then ([] : Text)
        else "\n| where " ++ joinWith " and " (predicates tokens)),
    notes tokens⟩

/-- No log source key occurs twice, and there is at most one time. -/
structure AtMostOnce (tokens : List HeadToken) : Prop where
  log : ∀ key : LogKey, (tokens.filterMap (logValue? key)).length ≤ 1
  time : (tokens.filterMap time?).length ≤ 1

/-- With one value at most, the first is all there is. -/
theorem toList_findSome? {α β : Type} {f : α → Option β} {xs : List α}
    (h : (xs.filterMap f).length ≤ 1) : (xs.findSome? f).toList = xs.filterMap f := by
  rw [← List.head?_filterMap]
  cases hvalues : xs.filterMap f with
  | nil => rfl
  | cons value values =>
    rw [hvalues, List.length_cons] at h
    rw [List.eq_nil_of_length_eq_zero (by omega : values.length = 0)]
    rfl

section

variable {tokens : List HeadToken} (honce : AtMostOnce tokens)

include honce

theorem predicates_searchHead : (searchHead tokens).predicates = predicates tokens := by
  have htime : ((tokens.findSome? time?).map RelativeTime.text).map SearchHead.timePredicate =
      (tokens.findSome? time?).map RelativeTime.predicate := by
    rw [Option.map_map]
    congr 1
    funext time
    exact time.timePredicate_text
  simp only [SearchHead.predicates, searchHead, htime, Option.toList_map, toList_findSome? honce.time,
    toList_findSome? (honce.log _), predicates]

theorem notes_searchHead : (searchHead tokens).notes = notes tokens := by
  have htime : ((tokens.findSome? time?).map RelativeTime.text).map SearchHead.earliestNote =
      (tokens.findSome? time?).map RelativeTime.note := by
    rw [Option.map_map]
    congr 1
    funext time
    exact time.earliestNote_text
  simp only [SearchHead.notes, searchHead, htime, Option.toList_map, toList_findSome? honce.time,
    toList_findSome? (honce.log _), notes]

theorem toKql_searchHead : (searchHead tokens).toKql = kql tokens := by
  have htable : (searchHead tokens).table = table tokens := by
    rw [SearchHead.table, searchHead, ← List.head?_filterMap, table]
    cases tokens.filterMap (logValue? .index) <;> rfl
  rw [SearchHead.toKql, htable, predicates_searchHead honce, notes_searchHead honce, kql]
  cases predicates tokens <;> rfl

/-- **The KQL of words depends on their order only among the words to look for
and among the filters.** -/
theorem kql_of_perm {others : List HeadToken} (hperm : others.Perm tokens)
    (hterms : others.filterMap term? = tokens.filterMap term?)
    (hfilters : others.filterMap filter? = tokens.filterMap filter?) : kql others = kql tokens := by
  have hsame : ∀ {β : Type} {f : HeadToken → Option β}, (tokens.filterMap f).length ≤ 1 →
      others.filterMap f = tokens.filterMap f := by
    intro β f hlength
    have hvalues := hperm.filterMap f
    match hone : tokens.filterMap f, hlength with
    | [], _ => exact List.perm_nil.mp (hone ▸ hvalues)
    | [value], _ => exact List.perm_singleton.mp (hone ▸ hvalues)
  have hlog : ∀ key, others.filterMap (logValue? key) = tokens.filterMap (logValue? key) :=
    fun key => hsame (honce.log key)
  have htable : table others = table tokens := by rw [table, hlog, table]
  have hpredicates : predicates others = predicates tokens := by
    rw [predicates, hsame honce.time, hlog, hlog, hterms, predicates]
  have hnotes : notes others = notes tokens := by
    rw [notes, hlog, hfilters, hsame honce.time, notes]
  rw [kql, htable, hpredicates, hnotes, kql]

end

end HeadToken

/-! ### Words with blanks between them -/

/-- A text that is made of the given words in order, with one or more blanks
between neighbours. -/
inductive Spaced : List Text → Text → Prop where
  | nil : Spaced [] []
  | single (word : Text) : Spaced [word] word
  | cons (word : Text) {gap next t : Text} {words : List Text} (hgap : gap ≠ [])
      (hblank : ∀ c ∈ gap, isBlank c) (h : Spaced (next :: words) t) :
      Spaced (word :: next :: words) (word ++ (gap ++ t))

theorem spaced_joinWith {gap : Text} (hgap : gap ≠ []) (hblank : ∀ c ∈ gap, isBlank c) :
    ∀ ws : List Text, Spaced ws (joinWith gap ws)
  | [] => .nil
  | [word] => .single word
  | word :: next :: ws => by
    have h := Spaced.cons word hgap hblank (spaced_joinWith hgap hblank (next :: ws))
    rwa [← List.append_assoc] at h

theorem Spaced.words_eq {ws : List Text} {t : Text} (h : Spaced ws t)
    (hws : ∀ w ∈ ws, IsWordText w) : words t = ws := by
  induction h with
  | nil => rfl
  | single w => exact (hws w List.mem_cons_self).words_eq
  | cons w hgap hblank _ ih =>
    obtain ⟨c, gap, rfl⟩ := List.exists_cons_of_ne_nil hgap
    obtain ⟨hc, hgap⟩ := List.forall_mem_cons.mp hblank
    rw [List.cons_append, words_append_blank hc, (hws w List.mem_cons_self).words_eq,
      words_blank_append hgap, ih fun u hu => hws u (List.mem_cons_of_mem _ hu),
      List.singleton_append]

open HeadToken

theorem headToKql_of_words {tokens : List HeadToken} (honce : AtMostOnce tokens) {head : Text}
    (hhead : Spaced (tokens.map text) head) : headToKql head = kql tokens := by
  have hwords : words head = tokens.map text := hhead.words_eq fun w hw => by
    obtain ⟨t, -, rfl⟩ := List.mem_map.mp hw
    exact t.isWordText_text
  rw [headToKql, ofText_of_words hwords, toKql_searchHead honce]

/-- **The KQL of a head of well-formed words.** It has the table of the index,
a predicate for the time, the source type, the source and each word to look
for, and notes on the index, the filters and the time; and so it is the same
for every order of the words that keeps the words to look for in order, and
the filters. -/
theorem headToKql_of_spaced (tokens : List HeadToken) (honce : AtMostOnce tokens) :
    (∀ head : Text, Spaced (tokens.map text) head → headToKql head = kql tokens) ∧
      ∀ others : List HeadToken, others.Perm tokens →
        others.filterMap term? = tokens.filterMap term? →
        others.filterMap filter? = tokens.filterMap filter? →
        ∀ head other : Text, Spaced (tokens.map text) head → Spaced (others.map text) other →
          headToKql other = headToKql head := by
  refine ⟨fun head hhead => headToKql_of_words honce hhead, ?_⟩
  intro others hperm hterms hfilters head other hhead hother
  have honce' : AtMostOnce others := by
    constructor
    · intro key
      rw [(hperm.filterMap (logValue? key)).length_eq]
      exact honce.log key
    · rw [(hperm.filterMap time?).length_eq]
      exact honce.time
  rw [headToKql_of_words honce' hother, headToKql_of_words honce hhead,
    kql_of_perm honce hperm hterms hfilters]

/-- Words with a wildcard, a parenthesis and a quote in their values. -/
def sampleTokens : List HeadToken :=
  [.term ⟨"ssh", by decide⟩, .log .index ⟨"ma*in", by decide⟩, .filter ⟨"host=(a", by decide⟩,
   .earliest ⟨true, "24", 'h', by decide, List.all_eq_true.mp rfl, by decide⟩,
   .term ⟨"ro\"ot", by decide⟩]

/-- The same words in another order. -/
def movedTokens : List HeadToken :=
  [.earliest ⟨true, "24", 'h', by decide, List.all_eq_true.mp rfl, by decide⟩,
   .term ⟨"ssh", by decide⟩, .term ⟨"ro\"ot", by decide⟩, .log .index ⟨"ma*in", by decide⟩,
   .filter ⟨"host=(a", by decide⟩]

/-- The same words in two orders, with single blanks and with line breaks
between them. -/
theorem headToKql_of_spaced_orders :
    AtMostOnce sampleTokens ∧
      headToKql "ssh index=ma*in host=(a earliest=-24h ro\"ot" =
        ⟨"main\n| where TimeGenerated >= ago(24h) and * contains \"ssh\" and * contains \"root\"",
          ["Mapped index=\"ma*in\" to table \"main\"",
            "Field filter \"host=(a\" not translated - requires manual adjustment",
            "Translated earliest=-24h to ago()"]⟩ ∧
      movedTokens.Perm sampleTokens ∧
      headToKql "earliest=-24h\t\nssh\t\nro\"ot\t\nindex=ma*in\t\nhost=(a" =
        headToKql "ssh index=ma*in host=(a earliest=-24h ro\"ot" := by
  have honce : AtMostOnce sampleTokens := ⟨fun key => by cases key <;> decide, by decide⟩
  have hperm : movedTokens.Perm sampleTokens := by decide
  have hhead := @spaced_joinWith " " (by decide) (List.all_eq_true.mp rfl) (sampleTokens.map text)
  have hmoved := @spaced_joinWith "\t\n" (by decide) (List.all_eq_true.mp rfl) (movedTokens.map text)
  have htext : joinWith " " (sampleTokens.map text) =
      Text.ofString "ssh index=ma*in host=(a earliest=-24h ro\"ot" := by decide +kernel
  have hmovedText : joinWith "\t\n" (movedTokens.map text) =
      Text.ofString "earliest=-24h\t\nssh\t\nro\"ot\t\nindex=ma*in\t\nhost=(a" := by decide +kernel
  rw [htext] at hhead
  rw [hmovedText] at hmoved
  obtain ⟨hkql, hsame⟩ := headToKql_of_spaced sampleTokens honce
  refine ⟨honce, ?_, hperm, hsame _ hperm rfl rfl _ _ hhead hmoved⟩
  rw [hkql _ hhead]
  decide +kernel

end TwinQuery
