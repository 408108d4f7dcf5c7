/-
# The name of an index and the confidence

Two searches that differ in the name of their index alone are converted alike:
the outcome is the name of the table followed by the same stages
(`IsIndexName.queryToKql_indexedQuery`), and neither the search nor the outcome
is found to have more or fewer faults, since an index begins a search, a table
begins a KQL query, and no check looks at either name
(`validateSpl_indexedQuery`, `validateKql_append_of_ink`).

The notes do differ. The one on the index quotes the name, and the words that
mark a note are looked for in the whole of it. The rest of the note has none of
them, and none reaches over a quote, so the note is marked exactly when the
name of the table is (`isIssueNote_indexNote`). Such a name costs ten points,
although its index was converted like any other (`confidence_indexedQuery`).

Key definitions: `IsIndexName`, `indexedQuery`, `IsMarked`.
Key theorems: `isIssueNote_indexNote`, `IsIndexName.queryToKql_indexedQuery`,
`validateSpl_indexedQuery`, `validateKql_append_of_ink`,
`confidence_convertSpl_indexedQuery`, `confidence_indexedQuery`.
-/
import TwinQuery.Proofs.Confidence
import TwinQuery.Proofs.HeadTokens

namespace TwinQuery

open Text

/-- The name of an index that leaves the name of a table. -/
structure IsIndexName (name : Text) : Prop where
  ink : ∀ c ∈ name, isInk c
  no_pipe : pipe ∉ name
  no_equals : .char '=' ∉ name
  table_ne_nil : tableOfIndex name ≠ []

/-- The search of an index, with stages after it. -/
def indexedQuery (name rest : Text) : Text := "index=" ++ name ++ " | " ++ rest

theorem indexedQuery_eq (name rest : Text) :
    indexedQuery name rest =
      ("index=" ++ name ++ [CodePoint.char ' ']) ++ pipe :: .char ' ' :: rest := by
  simp [indexedQuery, ofString, pipe]

/-! ### The note on an index -/

/-- A name with one of the words that mark a note in it. -/
def IsMarked (name : Text) : Prop := ∃ marker ∈ issueMarkers, marker <:+: name

theorem isIssueNote_iff_isMarked (note : Text) : isIssueNote note ↔ IsMarked note := by
  simp only [isIssueNote, IsMarked, List.any_eq_true, hasPart_iff_isInfix]

instance (name : Text) : Decidable (IsMarked name) :=
  decidable_of_iff _ (isIssueNote_iff_isMarked name)

/-- A marker does not reach over a quote. -/
theorem isMarked_append_quote (a b : Text) :
    IsMarked (a ++ .char '"' :: b) ↔ IsMarked a ∨ IsMarked b := by
  have hquote : ∀ marker ∈ issueMarkers, .char '"' ∉ marker := by decide
  simp only [IsMarked, ← exists_or, ← and_or_left]
  exact exists_congr fun marker => and_congr_right fun hmarker =>
    isInfix_append_cons (hquote marker hmarker) a

/-- What is taken out of a name to get the table is in none of the markers. -/
theorem IsMarked.tableOfIndex {name : Text} (h : IsMarked name) :
    IsMarked (tableOfIndex name) := by
  obtain ⟨marker, hmarker, hinfix⟩ := h
  have hkept : ∀ marker ∈ issueMarkers, TwinQuery.tableOfIndex marker = marker := by decide
  refine ⟨marker, hmarker, ?_⟩
  rw [← hkept marker hmarker]
  exact hinfix.filter _

/-- **The note on an index is marked exactly when the name of its table is.** -/
theorem isIssueNote_indexNote (name : Text) :
    isIssueNote (SearchHead.indexNote name) ↔ IsMarked (tableOfIndex name) := by
  have hnote : SearchHead.indexNote name =
      ofString "Mapped index=" ++ .char '"' :: (name ++ .char '"' :: (ofString " to table " ++
        .char '"' :: (tableOfIndex name ++ [.char '"']))) := by
    simp [SearchHead.indexNote, ofString]
  have hlead : ¬ IsMarked "Mapped index=" := by decide
  have hmiddle : ¬ IsMarked " to table " := by decide
  have hend : ¬ IsMarked [] := by decide
  rw [isIssueNote_iff_isMarked, hnote, isMarked_append_quote, isMarked_append_quote,
    isMarked_append_quote, isMarked_append_quote, or_iff_right hlead, or_iff_right hmiddle,
    or_iff_left hend]
  exact or_iff_right_of_imp IsMarked.tableOfIndex

/-! ### The conversion -/

namespace IsIndexName

variable {name : Text} (h : IsIndexName name)

include h

theorem ne_nil : name ≠ [] := by
  rintro rfl
  exact h.table_ne_nil rfl

theorem ink_index : ∀ c ∈ "index=" ++ name, isInk c := by
  intro c hc
  rcases List.mem_append.mp hc with hc | hc
  · exact List.all_eq_true.mp (by decide : (Text.ofString "index=").all isInk) c hc
  · exact h.ink c hc

theorem no_pipe_index : pipe ∉ "index=" ++ name ++ [CodePoint.char ' '] := by
  have hindex : pipe ∉ Text.ofString "index=" := by decide
  have hspace : pipe ∉ [.char ' '] := by decide
  simp only [List.mem_append, not_or]
  exact ⟨⟨hindex, h.no_pipe⟩, hspace⟩

theorem headToKql_index : headToKql ("index=" ++ name) =
    ⟨tableOfIndex name, [SearchHead.indexNote name]⟩ := by
  let token : HeadToken := .log .index ⟨name, ⟨h.ne_nil, h.ink⟩, unmarked_of_not_mem h.no_equals⟩
  have hwords : words ("index=" ++ name) = [token].map HeadToken.text :=
    token.isWordText_text.words_eq
  have hsays : HeadToken.searchHead [token] = ⟨some name, none, none, none, [], []⟩ := rfl
  rw [headToKql, HeadToken.ofText_of_words hwords, hsays]
  simp [SearchHead.toKql, SearchHead.table, SearchHead.predicates, SearchHead.notes]

theorem ofQuery_index :
    Pipeline.ofQuery ("index=" ++ name ++ [CodePoint.char ' ']) = ⟨"index=" ++ name, []⟩ := by
  have hline : OneLine ("index=" ++ name) := fun c hc => isLineBreak_of_isInk (h.ink_index c hc)
  rw [Pipeline.ofQuery_of_not_mem h.no_pipe_index, joinLines_append_blank rfl,
    joinLines_of_oneLine hline, strip_of_ink h.ink_index]

/-- **The name of the table, then the stages,** which do not depend on it. -/
theorem queryToKql_indexedQuery (commands : VerbTable) (rest : Text) :
    queryToKql commands (indexedQuery name rest) =
      ⟨tableOfIndex name, [SearchHead.indexNote name]⟩ ++
        tailToKql commands (.char ' ' :: rest) := by
  have hhead : queryToKql commands ("index=" ++ name ++ [CodePoint.char ' ']) =
      ⟨tableOfIndex name, [SearchHead.indexNote name]⟩ := by
    unfold queryToKql
    simp only [h.ofQuery_index, h.headToKql_index]
    exact Fragment.append_empty _
  rw [indexedQuery_eq, queryToKql_append_pipe, hhead]

theorem ink_table : ∀ c ∈ tableOfIndex name, isInk c ∧ c ≠ pipe := by
  intro c hc
  have hmem : c ∈ name := List.mem_of_mem_filter hc
  exact ⟨h.ink c hmem, fun hpipe => h.no_pipe (hpipe ▸ hmem)⟩

end IsIndexName

/-! ### The findings -/

/-- What is found in a search of an index is found in its stages. -/
theorem validateSpl_indexedQuery (commands : VerbTable) {name : Text} (h : IsIndexName name)
    (rest : Text) :
    validateSpl (some commands) (indexedQuery name rest) =
      ⟨[], splVerbWarnings commands (' ' :: rest)⟩ := by
  have hcut : cutAt pipe (indexedQuery name rest) =
      (ofString "index=" ++ (name ++ [.char ' '])) :: cutAt pipe (.char ' ' :: rest) := by
    rw [indexedQuery_eq, cutAt_append_mark, cutAt_of_not_mem h.no_pipe_index, List.append_assoc,
      List.singleton_append]
  have hpipe : splPipeWarnings (indexedQuery name rest) = [] := by
    rw [indexedQuery, List.append_assoc, List.append_assoc]
    exact splPipeWarnings_index _
  have hverbs : splVerbWarnings commands (indexedQuery name rest) =
      splVerbWarnings commands (' ' :: rest) := by
    simp only [splVerbWarnings, hcut, verbsOf_cons (strip_index_ne_nil _), List.filter_cons,
      startsWithAny_stageVerb_index, Bool.not_true, Bool.and_false, Bool.false_eq_true, if_false]
  unfold validateSpl
  rw [hpipe, Option.map_some, hverbs]
  rfl

/-- **What is found in a KQL query does not depend on its table,** when it has
one. -/
theorem validateKql_append_of_ink (operators : VerbTable) {table : Text}
    (htable : ∀ c ∈ table, isInk c ∧ c ≠ pipe) (hne : table ≠ []) (t : Text) :
    validateKql (some operators) (table ++ t) =
      ⟨[], kqlPipeWarnings t ++ kqlVerbWarnings operators t⟩ := by
  have hfree : pipe ∉ table := fun hm => (htable pipe hm).2 rfl
  have herrors : kqlErrors (table ++ t) = [] := by
    obtain ⟨c, table, rfl⟩ := List.exists_cons_of_ne_nil hne
    obtain ⟨hink, hpipe⟩ := htable c List.mem_cons_self
    have herror := kqlErrors_of_ink (a := []) (by simp) hink (table ++ t)
    rwa [if_neg hpipe] at herror
  have hpipes : kqlPipeWarnings (table ++ t) = kqlPipeWarnings t := by
    simp [kqlPipeWarnings, hfree]
  have hverbs : kqlVerbWarnings operators (table ++ t) = kqlVerbWarnings operators t := by
    obtain ⟨piece, pieces, hcut⟩ := List.exists_cons_of_ne_nil (cutAt_ne_nil pipe t)
    simp only [kqlVerbWarnings, cutAt_append_of_not_mem hcut hfree, hcut, List.drop_one,
      List.tail_cons]
  unfold validateKql
  rw [herrors, hpipes, Option.map_some, hverbs]
  rfl

/-! ### The confidence -/

/-- The confidence that the stages after an index leave. -/
def stagesConfidence (v : Vocabulary) (rest : Text) : Nat :=
  let stages := tailToKql v.spl (' ' :: rest)
  confidence ⟨[], splVerbWarnings v.spl (' ' :: rest)⟩
    ⟨[], kqlPipeWarnings stages.text ++ kqlVerbWarnings v.kql stages.text⟩ stages.notes

theorem confidence_convertSpl_indexedQuery (v : Vocabulary) {name : Text} (h : IsIndexName name)
    (rest : Text) :
    (convertSpl v (indexedQuery name rest)).confidence =
      stagesConfidence v rest - if IsMarked (tableOfIndex name) then 10 else 0 := by
  have hconfidence : (convertSpl v (indexedQuery name rest)).confidence =
      confidence (validateSpl (some v.spl) (indexedQuery name rest))
        (validateKql (some v.kql) (tableOfIndex name ++ (tailToKql v.spl (' ' :: rest)).text))
        (SearchHead.indexNote name :: (tailToKql v.spl (' ' :: rest)).notes) := by
    unfold convertSpl
    rw [h.queryToKql_indexedQuery]
    rfl
  rw [hconfidence, validateSpl_indexedQuery v.spl h,
    validateKql_append_of_ink v.kql h.ink_table h.table_ne_nil]
  simp only [stagesConfidence, confidence, notesPenalty, List.countP_cons, isIssueNote_indexNote]
  split <;> omega

/-- **The confidence depends on the name of the index, but only on whether it
holds a marker.** Two names that agree in this, once wildcards and quotes are
taken out, give the same confidence whatever the stages are. A name with a
marker in it gives ten points less than one without, or none if there are not
ten. -/
theorem confidence_indexedQuery (v : Vocabulary) (rest : Text) {i j : Text} (hi : IsIndexName i)
    (hj : IsIndexName j) :
    ((IsMarked (tableOfIndex i) ↔ IsMarked (tableOfIndex j)) →
      (convertSpl v (indexedQuery i rest)).confidence =
        (convertSpl v (indexedQuery j rest)).confidence) ∧
    (IsMarked (tableOfIndex i) → ¬ IsMarked (tableOfIndex j) →
      (convertSpl v (indexedQuery i rest)).confidence =
        (convertSpl v (indexedQuery j rest)).confidence - 10) := by
  rw [confidence_convertSpl_indexedQuery v hi, confidence_convertSpl_indexedQuery v hj]
  constructor
  · intro hsame
    rw [if_congr hsame rfl rfl]
  · intro hmarked hplain
    rw [if_pos hmarked, if_neg hplain, Nat.sub_zero]

/-- An index is charged for being called `manual_uploads`, and no index is for
a name like `main`, with a wildcard or without. -/
theorem confidence_indexedQuery_manual :
    (convertSpl (.bundled ⟨0, some 0⟩) (indexedQuery "main" "stats count")).confidence = 100 ∧
    (convertSpl (.bundled ⟨0, some 0⟩) (indexedQuery "win*" "stats count")).confidence = 100 ∧
    (convertSpl (.bundled ⟨0, some 0⟩)
      (indexedQuery "manual_uploads" "stats count")).confidence = 90 := by
  have hmain : IsIndexName "main" := ⟨List.all_eq_true.mp rfl, by decide, by decide, by decide⟩
  have hwild : IsIndexName "win*" := ⟨List.all_eq_true.mp rfl, by decide, by decide, by decide⟩
  have hmanual : IsIndexName "manual_uploads" := ⟨List.all_eq_true.mp rfl, by decide, by decide, by decide⟩
  have hfull : (convertSpl (.bundled ⟨0, some 0⟩)
      (indexedQuery "main" "stats count")).confidence = 100 := by decide +kernel
  have hsame := (confidence_indexedQuery (.bundled ⟨0, some 0⟩) "stats count" hwild hmain).1
    (by decide)
  have hless := (confidence_indexedQuery (.bundled ⟨0, some 0⟩) "stats count" hmanual hmain).2
    (by decide) (by decide)
  rw [hfull] at hsame hless
  exact ⟨hfull, hsame, hless⟩

end TwinQuery
