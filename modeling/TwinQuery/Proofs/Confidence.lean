/-
# What lowers the confidence

The confidence in a conversion is computed from what was found and noted, and
the notes count by the words in them: a note tells of something not converted
when it holds one of three markers. The notes are written in many places, but
every construct that is converted in part only has a note of its own with a
marker in it, so each takes ten points off (`confidence_le_degradation`). In
SPL these are the filters of the head, the stages with an unknown command,
`rex`, and `spath` without a path or an output; in KQL a table that is
resolved to the default, a `where` after another operator, `parse`, and the
stages without a rule. For the stages of a KQL query the notes are counted
exactly (`countP_isIssueNote_stagesToSpl`); elsewhere a marker may also come
from the query itself, and there may be more.

And a query that goes on after a pipe is never trusted more than the query
itself (`confidence_append_pipe_le`). Its notes begin with the notes of the
query, and no finding on the query or on its outcome is taken back. The one
finding that could be is the missing pipe, which is why the query needs one,
and in SPL a stage, so that its outcome has one too.

Key definitions: `degradationInKql`, `degradationInSpl`.
Key theorems: `isIssueNote_of_isInfix`, `countP_isIssueNote_stages`,
`countP_isIssueNote_stagesToSpl`, `confidence_le_degradation`,
`penalty_validateSpl_append`, `penalty_validateKql_append`,
`confidence_append_pipe_le`.
-/
import TwinQuery.Proofs.Extension

namespace TwinQuery

open Text

/-! ### Notes that hold a marker -/

/-- A note with a marker in a part of it has a marker. -/
theorem isIssueNote_of_isInfix {part note : Text} (h : part <:+: note) (hpart : isIssueNote part) :
    isIssueNote note := by
  simp only [isIssueNote, List.any_eq_true, hasPart_iff_isInfix] at hpart ⊢
  obtain ⟨marker, hmem, hmarker⟩ := hpart
  exact ⟨marker, hmem, hmarker.trans h⟩

theorem isIssueNote_append_left {start : Text} (hstart : isIssueNote start) (rest : Text) :
    isIssueNote (start ++ rest) :=
  isIssueNote_of_isInfix (List.prefix_append start rest).isInfix hstart

theorem isIssueNote_append_right (start : Text) {rest : Text} (hrest : isIssueNote rest) :
    isIssueNote (start ++ rest) :=
  isIssueNote_of_isInfix (List.suffix_append start rest).isInfix hrest

theorem isIssueNote_unknownStageNote (verb : Text) : isIssueNote (unknownStageNote verb) :=
  isIssueNote_append_left (by decide) verb

theorem isIssueNote_filterNote (filter : Text) : isIssueNote (SearchHead.filterNote filter) :=
  isIssueNote_append_right _ (by decide)

theorem isIssueNote_unknownTableNote (table : Text) : isIssueNote (unknownTableNote table) := by
  have hstart : isIssueNote ("WARNING: Unknown table \"" ++ table) :=
    isIssueNote_append_left (by decide) table
  exact isIssueNote_append_left (isIssueNote_append_left hstart _) _

/-! ### From SPL to KQL -/

/-- A stage with an unknown command. -/
def isUnknownStage (commands : VerbTable) (stage : Text) : Bool :=
  !commands.knows (stageVerb stage)

/-- A known `rex`. -/
def isRexStage (commands : VerbTable) (stage : Text) : Bool :=
  commands.knows (stageVerb stage) && stageVerb stage == "rex"

/-- A known `spath` without a path or without an output. -/
def isOpenSpathStage (commands : VerbTable) (stage : Text) : Bool :=
  commands.knows (stageVerb stage) && stageVerb stage == "spath" &&
    ((fieldValue "path=" (stageArguments stage "spath")).isNone ||
      (fieldValue "output=" (stageArguments stage "spath")).isNone)

/-- The number of constructs of a search that are converted in part only. -/
def degradationInKql (commands : VerbTable) (query : Text) : Nat :=
  (Pipeline.ofQuery query).stages.countP (isUnknownStage commands) +
    (SearchHead.ofText (Pipeline.ofQuery query).head).filters.length +
    (Pipeline.ofQuery query).stages.countP (isRexStage commands) +
    (Pipeline.ofQuery query).stages.countP (isOpenSpathStage commands)

theorem commandToKql_rex (stage : Text) (equivalent : Doc) :
    commandToKql stage "rex" equivalent = rexToKql (stageArguments stage "rex") := rfl

theorem commandToKql_spath (stage : Text) (equivalent : Doc) :
    commandToKql stage "spath" equivalent = spathToKql (stageArguments stage "spath") := rfl

theorem countP_isIssueNote_rexToKql (args : Text) :
    (rexToKql args).notes.countP isIssueNote = 1 := by
  simp only [rexToKql]
  decide

theorem countP_isIssueNote_spathToKql {args : Text}
    (h : (fieldValue "path=" args).isNone || (fieldValue "output=" args).isNone) :
    (spathToKql args).notes.countP isIssueNote = 1 := by
  have hnone : SpathOptions.ofText? args = none := by
    unfold SpathOptions.ofText?
    split
    · rename_i path output hpath houtput
      simp [hpath, houtput] at h
    · rfl
  simp only [spathToKql, hnone]
  decide

/-- **A stage that is converted in part only has a note with a marker.** -/
theorem countP_isIssueNote_stageToKql (commands : VerbTable) (stage : Text) :
    (if isUnknownStage commands stage then 1 else 0) +
        (if isRexStage commands stage then 1 else 0) +
        (if isOpenSpathStage commands stage then 1 else 0) ≤
      (stageToKql commands stage).notes.countP isIssueNote := by
  have hknows : commands.knows (stageVerb stage) = (commands.find? (stageVerb stage)).isSome := rfl
  unfold isUnknownStage isRexStage isOpenSpathStage
  rw [hknows]
  cases hfind : commands.find? (stageVerb stage) with
  | none =>
    have hnote := isIssueNote_unknownStageNote (stageVerb stage)
    have hnotes : (stageToKql commands stage).notes = [unknownStageNote (stageVerb stage)] := by
      rw [stageToKql_of_none hfind]
      rfl
    simp [hnotes, hnote]
  | some entry =>
    rw [stageToKql_of_some hfind]
    by_cases hrex : stageVerb stage = "rex"
    · rw [hrex, commandToKql_rex]
      have hother : (ofString "rex" == ofString "spath") = false := by decide
      simp [hother, countP_isIssueNote_rexToKql]
    by_cases hspath : stageVerb stage = "spath"
    · rw [hspath, commandToKql_spath]
      have hother : (ofString "spath" == ofString "rex") = false := by decide
      by_cases hopen : (fieldValue "path=" (stageArguments stage "spath")).isNone ||
          (fieldValue "output=" (stageArguments stage "spath")).isNone
      · simp [hother, hopen, countP_isIssueNote_spathToKql hopen]
      · simp [hother, hopen]
    · simp [hrex, hspath]

/-- All stages together. -/
theorem countP_isIssueNote_stages (commands : VerbTable) : ∀ stages : List Text,
    stages.countP (isUnknownStage commands) + stages.countP (isRexStage commands) +
        stages.countP (isOpenSpathStage commands) ≤
      (stages.flatMap fun stage => (stageToKql commands stage).notes).countP isIssueNote
  | [] => Nat.le_refl _
  | stage :: stages => by
    have ih := countP_isIssueNote_stages commands stages
    have hstage := countP_isIssueNote_stageToKql commands stage
    rw [List.flatMap_cons, List.countP_append, List.countP_cons, List.countP_cons, List.countP_cons]
    omega

theorem length_filters_le (h : SearchHead) : h.filters.length ≤ h.notes.countP isIssueNote := by
  have hfilters : (h.filters.map SearchHead.filterNote).countP isIssueNote = h.filters.length := by
    rw [List.countP_map, List.countP_eq_length]
    exact fun filter _ => isIssueNote_filterNote filter
  rw [SearchHead.notes, List.countP_append, List.countP_append, hfilters]
  omega

theorem degradationInKql_le (commands : VerbTable) (query : Text) :
    degradationInKql commands query ≤ (queryToKql commands query).notes.countP isIssueNote := by
  have hhead := length_filters_le (SearchHead.ofText (Pipeline.ofQuery query).head)
  have hstages := countP_isIssueNote_stages commands (Pipeline.ofQuery query).stages
  rw [queryToKql_notes, List.countP_append, degradationInKql]
  omega

/-! ### From KQL to SPL -/

/-- The number of `where` stages after a stage that is none. -/
def lateFilters (stages : List Text) : Nat :=
  (stages.dropWhile fun stage => stageVerb stage == "where").countP
    fun stage => stageVerb stage == "where"

theorem lateFilters_cons_of_filter {stage : Text} (h : stageVerb stage = "where")
    (stages : List Text) : lateFilters (stage :: stages) = lateFilters stages := by
  simp [lateFilters, h]

theorem lateFilters_cons_of_ne {stage : Text} (h : stageVerb stage ≠ "where")
    (stages : List Text) :
    lateFilters (stage :: stages) = stages.countP fun stage => stageVerb stage == "where" := by
  simp [lateFilters, h]

/-- Whether a table is resolved to the default entry. -/
def TableMapping.usesDefault (m : TableMapping) (table : Text) : Bool :=
  match m.resolve table with
  | .ok (_, usedDefault) => usedDefault
  | .error _ => false

/-- The number of constructs of a KQL query that are converted in part
only. -/
def degradationInSpl (m : TableMapping) (query : Text) : Nat :=
  (if m.usesDefault (Pipeline.ofQuery query).head then 1 else 0) +
    lateFilters (Pipeline.ofQuery query).stages +
    (Pipeline.ofQuery query).stages.countP (fun stage => stageVerb stage == "parse") +
    (Pipeline.ofQuery query).stages.countP fun stage =>
      KqlOperator.ofVerb (stageVerb stage) == .other

/-- Only `parse` is read as `parse`. -/
theorem KqlOperator.ofVerb_eq_parse_iff (verb : Text) : ofVerb verb = .parse ↔ verb = "parse" :=
  ofVerb_eq_iff (by decide) (by decide) (by decide) verb

/-- **A stage has a note with a marker when it is a late `where`, a `parse`,
or has no rule**, and no other note with one. -/
theorem countP_isIssueNote_operatorToSpl (stage verb : Text) (inline : Bool) :
    (operatorToSpl stage verb inline).notes.countP isIssueNote =
      (if !inline && verb == "where" then 1 else 0) + (if verb == "parse" then 1 else 0) +
        (if KqlOperator.ofVerb verb == .other then 1 else 0) := by
  have hfilter : (verb == "where") = (KqlOperator.ofVerb verb == .filter) := by
    rw [Bool.eq_iff_iff, beq_iff_eq, beq_iff_eq]
    exact (KqlOperator.ofVerb_eq_filter_iff verb).symm
  have hparse : (verb == "parse") = (KqlOperator.ofVerb verb == .parse) := by
    rw [Bool.eq_iff_iff, beq_iff_eq, beq_iff_eq]
    exact (KqlOperator.ofVerb_eq_parse_iff verb).symm
  rw [hfilter, hparse]
  unfold operatorToSpl
  cases KqlOperator.ofVerb verb with
  | filter =>
    have hnote : isIssueNote lateFilterNote := by decide
    cases inline <;> simp [filterToSpl, hnote]
  | parse =>
    have hnote : isIssueNote "parse requires manual adjustment for regex patterns" := by decide
    simp [hnote]
  | other =>
    have hnote : isIssueNote ("Unknown KQL operator: " ++ verb) :=
      isIssueNote_append_left (by decide) verb
    simp [unknownToSpl, hnote]
  | _ => cases inline <;> rfl

/-- All stages together. -/
theorem countP_isIssueNote_stagesToSpl : ∀ (stages : List Text) (inline : Bool),
    (stagesToSpl inline stages).notes.countP isIssueNote =
      (if inline then lateFilters stages
        else stages.countP fun stage => stageVerb stage == "where") +
        stages.countP (fun stage => stageVerb stage == "parse") +
        stages.countP fun stage => KqlOperator.ofVerb (stageVerb stage) == .other
  | [], inline => by cases inline <;> rfl
  | stage :: stages, inline => by
    have ih := countP_isIssueNote_stagesToSpl stages (inline && isFilterStage stage)
    have hstage := countP_isIssueNote_operatorToSpl stage (stageVerb stage) inline
    have hcount : (stagesToSpl inline (stage :: stages)).notes.countP isIssueNote =
        (operatorToSpl stage (stageVerb stage) inline).notes.countP isIssueNote +
          (stagesToSpl (inline && isFilterStage stage) stages).notes.countP isIssueNote :=
      List.countP_append
    rw [hcount, ih, hstage, isFilterStage_eq]
    -- a stage other than `where` makes every `where` after it a late one
    by_cases hwhere : stageVerb stage = "where"
    · rw [lateFilters_cons_of_filter hwhere]
      cases inline <;> simp [hwhere, List.countP_cons] <;> omega
    · rw [lateFilters_cons_of_ne hwhere]
      cases inline <;> simp [hwhere, List.countP_cons] <;> omega

theorem degradationInSpl_le {m : TableMapping} {query : Text} {spl : Fragment}
    (h : queryToSpl m query = .ok spl) :
    degradationInSpl m query ≤ spl.notes.countP isIssueNote := by
  obtain ⟨entry, usedDefault, hresolve, -, hnotes⟩ := exists_place_of_queryToSpl h
  have hdefault : m.usesDefault (Pipeline.ofQuery query).head = usedDefault := by
    rw [TableMapping.usesDefault, hresolve]
  have htable : (if usedDefault then [unknownTableNote (Pipeline.ofQuery query).head] else []).countP
      isIssueNote = if usedDefault then 1 else 0 := by
    have hnote := isIssueNote_unknownTableNote (Pipeline.ofQuery query).head
    cases usedDefault <;> simp [hnote]
  have hstages := countP_isIssueNote_stagesToSpl (Pipeline.ofQuery query).stages true
  rw [if_pos rfl] at hstages
  rw [hnotes, List.countP_append, List.countP_cons, htable, hstages, degradationInSpl, hdefault]
  omega

/-! ### Every degraded construct is paid for -/

theorem confidence_le_of_countP (input output : Findings) {notes : List Text} {n : Nat}
    (h : n ≤ notes.countP isIssueNote) : confidence input output notes ≤ 100 - 10 * n := by
  unfold confidence notesPenalty
  omega

theorem convertKql_of_queryToSpl (v : Vocabulary) {m : TableMapping} {query : Text} {spl : Fragment}
    (h : queryToSpl m query = .ok spl) :
    (convertKql v m query).confidence =
      confidence (validateKql (some v.kql) query) (validateSpl (some v.spl) spl.text) spl.notes := by
  unfold convertKql
  rw [h]
  rfl

/-- **Every construct that is converted in part only takes ten points off.**
So a confidence of 100 is given only when there is none. -/
theorem confidence_le_degradation :
    (∀ (v : Vocabulary) (query : Text),
      (convertSpl v query).confidence ≤ 100 - 10 * degradationInKql v.spl query ∧
        ((convertSpl v query).confidence = 100 → degradationInKql v.spl query = 0)) ∧
      ∀ (v : Vocabulary) (m : TableMapping) (query : Text), m.HasTextKeys →
        (convertKql v m query).confidence ≤ 100 - 10 * degradationInSpl m query ∧
          ((convertKql v m query).confidence = 100 → degradationInSpl m query = 0) := by
  constructor
  · intro v query
    have hbound : (convertSpl v query).confidence ≤ 100 - 10 * degradationInKql v.spl query :=
      confidence_le_of_countP _ _ (degradationInKql_le v.spl query)
    exact ⟨hbound, by omega⟩
  · intro v m query hm
    obtain ⟨spl, hspl⟩ := queryToSpl_eq_ok hm query
    have hbound : (convertKql v m query).confidence ≤ 100 - 10 * degradationInSpl m query := by
      rw [convertKql_of_queryToSpl v hspl]
      exact confidence_le_of_countP _ _ (degradationInSpl_le hspl)
    exact ⟨hbound, by omega⟩

/-- An unknown table, a late `where`, a `parse` and a stage without a rule. -/
theorem confidence_le_degradation_four :
    TableMapping.defaults.HasTextKeys ∧
      degradationInSpl .defaults "Nowhere | where a | take 5 | where b | parse c | frob d" = 4 ∧
      (convertKql (.bundled ⟨0, some 0⟩) .defaults
        "Nowhere | where a | take 5 | where b | parse c | frob d").confidence ≤ 60 := by
  have hfour : degradationInSpl .defaults
      "Nowhere | where a | take 5 | where b | parse c | frob d" = 4 := by decide
  obtain ⟨hbound, -⟩ := confidence_le_degradation.2 (.bundled ⟨0, some 0⟩) .defaults
    "Nowhere | where a | take 5 | where b | parse c | frob d" hasTextKeys_defaults
  rw [hfour] at hbound
  exact ⟨hasTextKeys_defaults, hfour, hbound⟩

/-! ### A query that goes on -/

theorem confidence_antitone {input input' output output' : Findings} {notes notes' : List Text}
    (hinput : input.penalty ≤ input'.penalty) (houtput : output.penalty ≤ output'.penalty)
    (hnotes : notesPenalty notes ≤ notesPenalty notes') :
    confidence input' output' notes' ≤ confidence input output notes := by
  unfold confidence
  omega

theorem notesPenalty_append_le (notes more : List Text) :
    notesPenalty notes ≤ notesPenalty (notes ++ more) := by
  unfold notesPenalty
  rw [List.countP_append]
  omega

/-- A longer search that is not warned of a missing pipe. -/
theorem penalty_validateSpl_append (commands : VerbTable) {t u : Text}
    (ht : splPipeWarnings t = []) (hu : StandsApart u) :
    (validateSpl (some commands) t).penalty ≤ (validateSpl (some commands) (t ++ u)).penalty := by
  have hverbs : (splVerbWarnings commands t).length ≤ (splVerbWarnings commands (t ++ u)).length :=
    (((verbsOf_cutAt_sublist hu t).filter _).map _).length_le
  have hwarnings : ∀ s, (validateSpl (some commands) s).penalty =
      5 * ((splPipeWarnings s).length + (splVerbWarnings commands s).length) := by
    intro s
    simp [validateSpl, Findings.penalty]
  rw [hwarnings, hwarnings, ht, List.length_nil]
  omega

/-- A longer KQL query that has a pipe. -/
theorem penalty_validateKql_append (operators : VerbTable) {t u : Text} (ht : pipe ∈ t)
    (hu : StandsApart u) :
    (validateKql (some operators) t).penalty ≤
      (validateKql (some operators) (t ++ u)).penalty := by
  have hink : strip t ≠ [] := by
    intro h
    cases (strip_eq_nil_iff t).mp h pipe ht
  have hpipe : kqlPipeWarnings t = [] := by simp [kqlPipeWarnings, ht]
  have hverbs : (kqlVerbWarnings operators t).length ≤
      (kqlVerbWarnings operators (t ++ u)).length :=
    (((verbsOf_drop_cutAt_sublist ht hu).filter _).map _).length_le
  have hfindings : ∀ s, (validateKql (some operators) s).penalty =
      20 * (kqlErrors s).length +
        5 * ((kqlPipeWarnings s).length + (kqlVerbWarnings operators s).length) := by
    intro s
    simp [validateKql, Findings.penalty]
  rw [hfindings, hfindings, kqlErrors_append hink, hpipe, List.length_nil]
  omega

theorem pipe_mem_queryToKql (commands : VerbTable) {query : Text}
    (h : (Pipeline.ofQuery query).stages ≠ []) : pipe ∈ (queryToKql commands query).text := by
  obtain ⟨stage, stages, hstages⟩ := List.exists_cons_of_ne_nil h
  rw [queryToKql_text, hstages]
  simp

/-- A converted KQL query begins with an index. -/
theorem splPipeWarnings_queryToSpl {m : TableMapping} {query : Text} {spl : Fragment}
    (h : queryToSpl m query = .ok spl) : splPipeWarnings spl.text = [] := by
  obtain ⟨entry, -, -, htext, -⟩ := exists_place_of_queryToSpl h
  rw [htext, Entry.search, List.append_assoc, List.append_assoc]
  exact splPipeWarnings_index _

theorem confidence_convertSpl_append_le (v : Vocabulary) {query : Text}
    (hstages : (Pipeline.ofQuery query).stages ≠ []) (rest : Text) :
    (convertSpl v (query ++ pipe :: rest)).confidence ≤ (convertSpl v query).confidence := by
  have hpipe := Pipeline.pipe_mem_of_stages_ne_nil hstages
  have hneeds : splPipeWarnings query = [] := by simp [splPipeWarnings, hpipe]
  have hinput := penalty_validateSpl_append v.spl hneeds (standsApart_pipe rest)
  have houtput := penalty_validateKql_append v.kql (pipe_mem_queryToKql v.spl hstages)
    (opensBlank_tailToKql v.spl rest).standsApart
  have hnotes := notesPenalty_append_le (queryToKql v.spl query).notes (tailToKql v.spl rest).notes
  have hlonger : (convertSpl v (query ++ pipe :: rest)).confidence =
      confidence (validateSpl (some v.spl) (query ++ pipe :: rest))
        (validateKql (some v.kql) ((queryToKql v.spl query).text ++ (tailToKql v.spl rest).text))
        ((queryToKql v.spl query).notes ++ (tailToKql v.spl rest).notes) := by
    unfold convertSpl
    rw [queryToKql_append_pipe]
    rfl
  rw [hlonger]
  exact confidence_antitone hinput houtput hnotes

theorem confidence_convertKql_append_le (v : Vocabulary) (m : TableMapping) {query : Text}
    (hpipe : pipe ∈ query) (rest : Text) :
    (convertKql v m (query ++ pipe :: rest)).confidence ≤ (convertKql v m query).confidence := by
  have hinput := penalty_validateKql_append v.kql hpipe (standsApart_pipe rest)
  have happend := queryToSpl_append_pipe m query rest
  cases hquery : queryToSpl m query with
  | error fault =>
    -- the table of both queries is the same, and so is the reason
    rw [hquery] at happend
    have houtcome : ∀ q, queryToSpl m q = .error fault → (convertKql v m q).confidence =
        confidence (validateKql (some v.kql) q) (validateSpl (some v.spl) [])
          (failedFragment fault).notes := by
      intro q hq
      unfold convertKql
      rw [hq]
      rfl
    rw [houtcome _ happend, houtcome _ hquery]
    exact confidence_antitone hinput (Nat.le_refl _) (Nat.le_refl _)
  | ok spl =>
    rw [hquery] at happend
    have houtput := penalty_validateSpl_append v.spl (splPipeWarnings_queryToSpl hquery)
      (opensBlank_tailToSpl (hasCommand query) rest).standsApart
    have hnotes := notesPenalty_append_le spl.notes (tailToSpl (hasCommand query) rest).notes
    rw [convertKql_of_queryToSpl v happend, convertKql_of_queryToSpl v hquery]
    exact confidence_antitone hinput houtput hnotes

/-- **A query that goes on is not trusted more.** A search must have a stage
for that, and a KQL query a pipe. -/
theorem confidence_append_pipe_le (v : Vocabulary) (m : TableMapping) (query rest : Text) :
    ((Pipeline.ofQuery query).stages ≠ [] →
      (convertSpl v (query ++ pipe :: rest)).confidence ≤ (convertSpl v query).confidence) ∧
      (pipe ∈ query →
        (convertKql v m (query ++ pipe :: rest)).confidence ≤ (convertKql v m query).confidence) :=
  ⟨fun hstages => confidence_convertSpl_append_le v hstages rest,
    fun hpipe => confidence_convertKql_append_le v m hpipe rest⟩

/-- The mapping of every table to an index with a pipe at its end. -/
def pipedMapping : TableMapping := ⟨[(.text defaultName, ⟨"auth|", none, []⟩)], 1, rfl⟩

/-- A stage with an unknown command, and a `where` that is appended to an
index with a pipe at its end, where its first word is taken for a command. -/
theorem confidence_append_pipe_le_appended :
    (Pipeline.ofQuery "index=main | stats n").stages ≠ [] ∧
      (convertSpl (.bundled ⟨0, some 0⟩) "index=main | stats n|\n frob x").confidence ≤
        (convertSpl (.bundled ⟨0, some 0⟩) "index=main | stats n").confidence ∧
      pipe ∈ ("Logins | " : Text) ∧
      (convertKql (.bundled ⟨0, some 0⟩) pipedMapping "Logins | |where a == 1").confidence ≤
        (convertKql (.bundled ⟨0, some 0⟩) pipedMapping "Logins | ").confidence := by
  have hstages : (Pipeline.ofQuery "index=main | stats n").stages ≠ [] := by decide
  have hpipe : pipe ∈ ("Logins | " : Text) := by decide
  obtain ⟨hspl, -⟩ := confidence_append_pipe_le (.bundled ⟨0, some 0⟩) pipedMapping
    "index=main | stats n" "\n frob x"
  obtain ⟨-, hkql⟩ := confidence_append_pipe_le (.bundled ⟨0, some 0⟩) pipedMapping
    "Logins | " "where a == 1"
  exact ⟨hstages, hspl hstages, hpipe, hkql hpipe⟩

end TwinQuery
