/-
# Queries that differ in layout only

A query means what its joined lines mean. Conversions and explanations read
the pipeline, which is cut from the joined lines, and joining lines that are
joined already changes nothing (`joinLines_joinLines`). The validations read
the query as it is written, but what they look for survives the joining: the
pipes (`mem_joinLines_iff`), the first characters of a KQL query, and the
verbs (`verbsOf_cutAt`).

One check does see the layout. A search needs no pipe when it begins with an
index or a source, and a blank before these words hides them. So the joined
lines are judged as the search is without the blanks at its start
(`splPipeWarnings_joinLines`), and with a pipe in the search, or no blank
before it, that is how the search itself is judged (`SettledStart`,
`validateSpl_joinLines`).

Key definitions: `SettledStart`, `SameReading`.
Key theorems: `joinLines_joinLines`, `validateKql_joinLines`,
`validateSpl_joinLines`, `sameReading_of_joinLines_eq`,
`layout_does_not_matter`.
-/
import TwinQuery.Explanation
import TwinQuery.Proofs.Confidence

namespace TwinQuery

open Text

/-! ### Lines that are joined already -/

@[simp] theorem joinLines_joinLines (t : Text) : joinLines (joinLines t) = joinLines t := by
  rw [joinLines_of_oneLine (oneLine_joinLines t), strip_joinLines]

@[simp] theorem Pipeline.ofQuery_joinLines (query : Text) :
    ofQuery (joinLines query) = ofQuery query := by
  rw [ofQuery, joinLines_joinLines, ofQuery]

/-- Joining the lines keeps every character that is not blank. -/
theorem mem_joinLines_iff {c : CodePoint} (hc : isInk c) (t : Text) : c ∈ joinLines t ↔ c ∈ t := by
  constructor
  · intro h
    rcases List.mem_cons.mp (joinLines_subset t h) with rfl | h
    · cases hc
    · exact h
  · intro h
    obtain ⟨a, b, rfl⟩ := List.append_of_mem h
    obtain ⟨x, y, hxy, -⟩ := joinLines_append_ink hc a b
    rw [hxy]
    simp

theorem contains_pipe_joinLines (query : Text) :
    (joinLines query).contains pipe = query.contains pipe := by
  rw [Bool.eq_iff_iff, List.contains_iff_mem, List.contains_iff_mem]
  exact mem_joinLines_iff isInk_pipe query

theorem verbsOf_cutAt_joinLines (query : Text) :
    verbsOf (cutAt pipe (joinLines query)) = verbsOf (cutAt pipe query) := by
  rw [verbsOf_cutAt, verbsOf_cutAt, Pipeline.ofQuery_joinLines]

theorem verbsOf_drop_cutAt_joinLines (query : Text) :
    verbsOf ((cutAt pipe (joinLines query)).drop 1) = verbsOf ((cutAt pipe query).drop 1) := by
  rw [verbsOf_drop_cutAt, verbsOf_drop_cutAt, Pipeline.ofQuery_joinLines]

/-! ### The validation of a KQL query -/

/-- **The same is found in a KQL query and in its joined lines.** -/
theorem validateKql_joinLines (operators : Option VerbTable) (query : Text) :
    validateKql operators (joinLines query) = validateKql operators query := by
  have herrors : kqlErrors (joinLines query) = kqlErrors query := by
    rw [kqlErrors_eq, joinLines_joinLines, kqlErrors_eq]
  have hpipe : kqlPipeWarnings (joinLines query) = kqlPipeWarnings query := by
    rw [kqlPipeWarnings, contains_pipe_joinLines, kqlPipeWarnings]
  have hverbs : ∀ table, kqlVerbWarnings table (joinLines query) = kqlVerbWarnings table query := by
    intro table
    rw [kqlVerbWarnings, verbsOf_drop_cutAt_joinLines, kqlVerbWarnings]
  simp only [validateKql, herrors, hpipe, hverbs]

/-! ### The validation of a search -/

/-- A text begins with a word exactly when its first word does. -/
theorem startsWith_firstWord {start : Text} (hstart : ∀ c ∈ start, isInk c) (t : Text) :
    startsWith start (firstWord t) = startsWith start t := by
  rw [Bool.eq_iff_iff, startsWith_iff_isPrefix, startsWith_iff_isPrefix]
  constructor
  · intro h
    exact h.trans (List.takeWhile_prefix isInk)
  · rintro ⟨rest, rfl⟩
    rw [firstWord_append_ink hstart]
    exact List.prefix_append start _

theorem startsWithAny_firstWord (t : Text) :
    startsWithAny pipelessStarts (firstWord t) = startsWithAny pipelessStarts t := by
  have hink : ∀ start ∈ pipelessStarts, start.all isInk := by decide
  rw [startsWithAny, startsWithAny, Bool.eq_iff_iff, List.any_eq_true, List.any_eq_true]
  refine exists_congr fun start => and_congr_right fun hmem => ?_
  rw [startsWith_firstWord (List.all_eq_true.mp (hink start hmem))]

theorem firstWord_joinLines (t : Text) : firstWord (joinLines t) = firstWord (stripStart t) := by
  have hstart : stripStart (joinLines t) = joinLines t := stripStart_of_stripped (strip_joinLines t)
  calc firstWord (joinLines t) = stageVerb (joinLines t) := by rw [stageVerb_eq, hstart, firstWord]
    _ = stageVerb t := stageVerb_joinLines t
    _ = firstWord (stripStart t) := by rw [stageVerb_eq, firstWord]

theorem contains_pipe_stripStart : ∀ query : Text,
    (stripStart query).contains pipe = query.contains pipe
  | [] => rfl
  | c :: query => by
    by_cases hc : isInk c
    · rw [stripStart_cons_ink hc]
    · have hc := isBlank_of_not_isInk hc
      have hne : pipe ≠ c := by rintro rfl; cases hc
      rw [stripStart_cons_blank hc, contains_pipe_stripStart query, List.contains_cons,
        beq_false_of_ne hne, Bool.false_or]

/-- Whether a search lacks a pipe is decided after the blanks at its start. -/
theorem splPipeWarnings_joinLines (query : Text) :
    splPipeWarnings (joinLines query) = splPipeWarnings (stripStart query) := by
  have hstart : startsWithAny pipelessStarts (joinLines query) =
      startsWithAny pipelessStarts (stripStart query) := by
    rw [← startsWithAny_firstWord, firstWord_joinLines, startsWithAny_firstWord]
  rw [splPipeWarnings, splPipeWarnings, hstart, contains_pipe_joinLines, contains_pipe_stripStart]

theorem splVerbWarnings_joinLines (commands : VerbTable) (query : Text) :
    splVerbWarnings commands (joinLines query) = splVerbWarnings commands query := by
  rw [splVerbWarnings, verbsOf_cutAt_joinLines, splVerbWarnings]

/-- Blanks at the start do not matter to a search: it has a pipe, or there are
none. -/
def SettledStart (query : Text) : Prop := pipe ∈ query ∨ ∀ c ∈ query.head?, isInk c

instance (query : Text) : Decidable (SettledStart query) :=
  decidable_of_iff (pipe ∈ query ∨ query.head?.all isInk) (or_congr_right (Option.all_eq_true ..))

theorem splPipeWarnings_stripStart {query : Text} (h : SettledStart query) :
    splPipeWarnings (stripStart query) = splPipeWarnings query := by
  rcases h with hpipe | hink
  · have hcontains : query.contains pipe := List.contains_iff_mem.mpr hpipe
    rw [splPipeWarnings, contains_pipe_stripStart, splPipeWarnings, hcontains, Bool.true_or,
      Bool.true_or, if_pos rfl]
  · cases query with
    | nil => rfl
    | cons c query => rw [stripStart_cons_ink (hink c rfl)]

/-- **The same is found in a search and in its joined lines,** unless it has
no pipe and begins with a blank. -/
theorem validateSpl_joinLines {query : Text} (h : SettledStart query)
    (commands : Option VerbTable) :
    validateSpl commands (joinLines query) = validateSpl commands query := by
  simp only [validateSpl, splPipeWarnings_joinLines, splPipeWarnings_stripStart h,
    splVerbWarnings_joinLines]

/-! ### The same reading -/

/-- Two queries are read alike: both conversions give the same text and notes
or the same fault, both explanations are the same, and so is what is found in
them as KQL queries. -/
structure SameReading (q r : Text) : Prop where
  toKql : ∀ commands : VerbTable, queryToKql commands q = queryToKql commands r
  toSpl : ∀ m : TableMapping, queryToSpl m q = queryToSpl m r
  explanation : ∀ (v : Vocabulary) (language : Language), explain v language q = explain v language r
  findings : ∀ operators : Option VerbTable, validateKql operators q = validateKql operators r

theorem sameReading_of_joinLines_eq {q r : Text} (h : joinLines q = joinLines r) :
    SameReading q r := by
  have hpipeline : Pipeline.ofQuery q = Pipeline.ofQuery r := by
    rw [← Pipeline.ofQuery_joinLines, h, Pipeline.ofQuery_joinLines]
  refine ⟨fun commands => ?_, fun m => ?_, fun v language => ?_, fun operators => ?_⟩
  · rw [queryToKql, hpipeline, queryToKql]
  · rw [queryToSpl, hpipeline, queryToSpl]
  · cases language with
    | spl => rw [explain, explainSpl, hpipeline, explain, explainSpl]
    | kql => rw [explain, explainKql, hpipeline, explain, explainKql]
  · rw [← validateKql_joinLines, h, validateKql_joinLines]

theorem validateSpl_of_joinLines_eq {q r : Text} (h : joinLines q = joinLines r)
    (hq : SettledStart q) (hr : SettledStart r) (commands : Option VerbTable) :
    validateSpl commands q = validateSpl commands r := by
  rw [← validateSpl_joinLines hq, h, validateSpl_joinLines hr]

theorem SameReading.confidence_convertKql {q r : Text} (h : SameReading q r) (v : Vocabulary)
    (m : TableMapping) : (convertKql v m q).confidence = (convertKql v m r).confidence := by
  simp only [convertKql, Conversion.build, h.toSpl, h.findings]

theorem SameReading.confidence_convertSpl {q r : Text} (h : SameReading q r) (v : Vocabulary)
    (hfindings : validateSpl (some v.spl) q = validateSpl (some v.spl) r) :
    (convertSpl v q).confidence = (convertSpl v r).confidence := by
  simp only [convertSpl, Conversion.build, h.toKql, hfindings]

/-- **Layout does not matter.** Joining lines is idempotent, and a query reads
like its joined lines; what is found in it as a search is the same too, unless
it has no pipe and begins with a blank. Hence queries with the same joined
lines have the same conversions, notes and explanations, and the same
confidence, with that one exception when they are searches. -/
theorem layout_does_not_matter :
    (∀ query : Text, joinLines (joinLines query) = joinLines query ∧
      SameReading query (joinLines query) ∧
      (SettledStart query → ∀ commands : Option VerbTable,
        validateSpl commands query = validateSpl commands (joinLines query))) ∧
    ∀ q r : Text, joinLines q = joinLines r →
      SameReading q r ∧
      (∀ (v : Vocabulary) (m : TableMapping),
        (convertKql v m q).confidence = (convertKql v m r).confidence) ∧
      (SettledStart q → SettledStart r → ∀ v : Vocabulary,
        (convertSpl v q).confidence = (convertSpl v r).confidence) := by
  constructor
  · intro query
    refine ⟨joinLines_joinLines query, sameReading_of_joinLines_eq (joinLines_joinLines query).symm, ?_⟩
    intro hstart commands
    exact (validateSpl_joinLines hstart commands).symm
  · intro q r h
    have hreading := sameReading_of_joinLines_eq h
    refine ⟨hreading, hreading.confidence_convertKql, fun hq hr v => ?_⟩
    exact hreading.confidence_convertSpl v (validateSpl_of_joinLines_eq h hq hr _)

/-- Line breaks of several kinds in a search do not lower the confidence. A
blank before a search without a pipe is seen: the warning on the missing pipe
goes when the lines are joined. -/
theorem layout_does_not_matter_breaks :
    SettledStart "index=main\r\n\x0b login \u2028\t| stats\x85 count" ∧
      SettledStart "index=main login | stats count" ∧
      (convertSpl (.bundled ⟨0, some 0⟩)
        "index=main\r\n\x0b login \u2028\t| stats\x85 count").confidence = 100 ∧
      ¬ SettledStart "\nindex=main" ∧
      validateSpl none "\nindex=main" ≠ validateSpl none (joinLines "\nindex=main") := by
  refine ⟨by decide, by decide, ?_, by decide, by decide⟩
  obtain ⟨-, -, hconfidence⟩ := layout_does_not_matter.2
    "index=main\r\n\x0b login \u2028\t| stats\x85 count" "index=main login | stats count"
    (by decide)
  rw [hconfidence (by decide) (by decide)]
  decide

end TwinQuery
