/-
# What is found in a converted query

A conversion validates its own outcome, and with the bundled vocabulary it is
known beforehand what that validation finds.

The outcome of either conversion is a text without pipes followed by stages,
each after a pipe with blanks around it, and the validation of such a text
goes by the first words of its stages (`verbsOf_cutAt_flatMap`). Every rule
for SPL writes an operator of KQL first (`exists_operator_commandToKql`), and
every rule for KQL a command of SPL (`stageVerb_stageInSpl`); predicates that
are appended to a command stand after its arguments and leave its first word
alone. So a warning can only come from a stage that no rule applied to. In KQL
the table can be missing: an index of wildcards and quotes leaves no name, and
then the first stage stands at the start.

Key definitions: `isWildcard`, `SplCommand.operators`, `Entry.IsPipeFree`.
Key theorems: `stageVerb_append_blank`, `verbsOf_cutAt_flatMap`,
`kqlErrors_of_ink`, `exists_operator_commandToKql`, `stageVerb_stageInSpl`,
`outputFindings_convertSpl`, `outputFindings_convertKql`.
-/
import TwinQuery.Conversion.Result
import TwinQuery.Proofs.PipelineToKql
import TwinQuery.Proofs.PipelineToSpl

namespace TwinQuery

open Text

/-! ### First words -/

/-- The blanks at the end of a stage are no part of its first word. -/
theorem stageVerb_eq (t : Text) : stageVerb t = (stripStart t).takeWhile isInk := by
  obtain ⟨b, hb, ht⟩ := stripEnd_append_rest (stripStart t)
  have h := takeWhile_append_blank (.of_blank hb) (fun c => isInk_of_isBlank)
    (stripEnd (stripStart t))
  rw [ht] at h
  exact h.symm

/-- **The first word of a stage is not changed by what follows after a
blank.** -/
theorem stageVerb_append_blank {t b : Text} (ht : strip t ≠ []) (hb : OpensBlank b) :
    stageVerb (t ++ b) = stageVerb t := by
  rw [stageVerb_eq, stageVerb_eq, stripStart_append ht,
    takeWhile_append_blank hb fun c => isInk_of_isBlank]

theorem stageVerb_strip (t : Text) : stageVerb (strip t) = stageVerb t := by
  rw [stageVerb, strip_strip, stageVerb]

/-- Verbs are read off the stripped pieces. -/
theorem verbsOf_congr {xs ys : List Text} (h : xs.map strip = ys.map strip) :
    verbsOf xs = verbsOf ys := by
  unfold verbsOf
  rw [h]

theorem verbsOf_cons {x : Text} (hx : strip x ≠ []) (ys : List Text) :
    verbsOf (x :: ys) = stageVerb x :: verbsOf ys := by
  simp [verbsOf, hx, stageVerb_strip]

theorem verbsOf_of_strip_ne_nil : ∀ {ys : List Text}, (∀ y ∈ ys, strip y ≠ []) →
    verbsOf ys = ys.map stageVerb
  | [], _ => rfl
  | y :: ys, h => by
    obtain ⟨hy, hys⟩ := List.forall_mem_cons.mp h
    rw [verbsOf_cons hy, verbsOf_of_strip_ne_nil hys, List.map_cons]

/-! ### Texts written stage by stage -/

section

variable {b : CodePoint} (hb : isBlank b) {x : Text} {ys : List Text} (hx : pipe ∉ x)
  (hys : ∀ y ∈ ys, pipe ∉ y ∧ strip y ≠ [])

include hb hx hys

theorem map_strip_cutAt_flatMap :
    (cutAt pipe (x ++ ys.flatMap fun y => b :: pipe :: ' ' :: y)).map strip =
      (x :: ys).map strip := by
  have hend : ∀ t, strip (t ++ [b]) = strip t :=
    strip_append_blank (List.forall_mem_singleton.mpr hb)
  have hcut := Pipeline.map_cutAt_flatMap hb hend (strip_cons_blank rfl) ys x
    fun y hy => (hys y hy).1
  rw [cutAt_of_not_mem hx] at hcut
  exact hcut

/-- **The verbs of a text that is written stage by stage** are the first
words of its stages. -/
theorem verbsOf_cutAt_flatMap (hne : strip x ≠ []) :
    verbsOf (cutAt pipe (x ++ ys.flatMap fun y => b :: pipe :: ' ' :: y)) =
      stageVerb x :: ys.map stageVerb := by
  rw [verbsOf_congr (map_strip_cutAt_flatMap hb hx hys), verbsOf_cons hne,
    verbsOf_of_strip_ne_nil fun y hy => (hys y hy).2]

/-- The same without the text before the stages, which may be blank. -/
theorem verbsOf_drop_cutAt_flatMap :
    verbsOf ((cutAt pipe (x ++ ys.flatMap fun y => b :: pipe :: ' ' :: y)).drop 1) =
      ys.map stageVerb := by
  rw [← verbsOf_of_strip_ne_nil fun y hy => (hys y hy).2]
  apply verbsOf_congr
  rw [List.map_drop, map_strip_cutAt_flatMap hb hx hys]
  rfl

end

/-! ### The start of a KQL query -/

theorem joinLines_of_blank {t : Text} (ht : ∀ c ∈ t, isBlank c) : joinLines t = [] := by
  rw [← strip_joinLines, strip_eq_nil_iff]
  intro c hc
  rcases List.mem_cons.mp (joinLines_subset t hc) with rfl | hc
  · rfl
  · exact ht c hc

/-- The error on a KQL query that begins with a pipe. -/
def missingTable : Text := "KQL query must start with a table name, not a pipe"

/-- The error is decided by the first character of the joined lines. -/
theorem kqlErrors_eq (query : Text) :
    kqlErrors query = if (joinLines query).head? = some pipe then [missingTable] else [] := by
  have hjoin : joinLines query = joinWith " " (filledLines query) := rfl
  have hfilled : ∀ line ∈ filledLines query, line ≠ [] := fun line hl => by
    simpa using (List.mem_filter.mp hl).2
  unfold kqlErrors
  rw [hjoin]
  cases hlines : filledLines query with
  | nil => rfl
  | cons line rest =>
    obtain ⟨c, line, rfl⟩ :=
      List.exists_cons_of_ne_nil (hfilled line (hlines ▸ List.mem_cons_self))
    have hhead : (joinWith " " ((c :: line) :: rest)).head? = some c := by
      cases rest <;> rfl
    rw [hhead]
    simp only [Option.some.injEq]
    rfl

theorem kqlErrors_of_ink {a : Text} (ha : ∀ c ∈ a, isBlank c) {c : CodePoint} (hc : isInk c)
    (r : Text) :
    kqlErrors (a ++ c :: r) = if c = pipe then [missingTable] else [] := by
  obtain ⟨x, y, hxy, hx, hstrip, -⟩ := joinLines_append_ink hc a r
  rw [joinLines_of_blank ha, strip_eq_nil_iff] at hstrip
  rw [stripStart_of_blank hstrip] at hx
  rw [kqlErrors_eq, hxy, ← hx]
  simp

section

variable {x : Text} (hx : ∀ c ∈ x, isInk c ∧ c ≠ pipe) (ys : List Text)

include hx

/-- Stages without a table before them begin with a pipe. -/
theorem kqlErrors_flatMap :
    kqlErrors (x ++ ys.flatMap fun y => .char '\n' :: pipe :: .char ' ' :: y) =
      if x = [] ∧ ys ≠ [] then [missingTable] else [] := by
  cases x with
  | cons c x =>
    obtain ⟨hc, hne⟩ := hx c List.mem_cons_self
    have h := kqlErrors_of_ink (a := []) (by simp) hc
      (x ++ ys.flatMap fun y => .char '\n' :: pipe :: .char ' ' :: y)
    rw [if_neg hne] at h
    simpa using h
  | nil =>
    cases ys with
    | nil => rfl
    | cons y ys =>
      have h := kqlErrors_of_ink (a := [.char '\n']) (List.forall_mem_singleton.mpr rfl) isInk_pipe
        (.char ' ' :: y ++ ys.flatMap fun y => .char '\n' :: pipe :: .char ' ' :: y)
      rw [if_pos rfl] at h
      simpa using h

theorem kqlPipeWarnings_flatMap :
    kqlPipeWarnings (x ++ ys.flatMap fun y => .char '\n' :: pipe :: .char ' ' :: y) =
      if ys = [] then [missingPipe "operators"] else [] := by
  have hfree : pipe ∉ x := fun hm => (hx pipe hm).2 rfl
  unfold kqlPipeWarnings
  cases ys with
  | nil => simp [hfree]
  | cons y ys => simp

end

/-! ### From SPL to KQL -/

/-- An index of which no table name is left. -/
def isWildcard (index : Text) : Bool := index.all fun c => c == '*' || c == '"'

theorem tableOfIndex_eq_nil_iff (index : Text) : tableOfIndex index = [] ↔ isWildcard index := by
  simp only [tableOfIndex, isWildcard, List.filter_eq_nil_iff, List.all_eq_true]
  refine forall₂_congr fun c _ => ?_
  simp [Decidable.imp_iff_not_or, or_comm]

theorem SearchHead.table_eq_nil_iff (h : SearchHead) : h.table = [] ↔ h.index.any isWildcard := by
  unfold table
  cases h.index with
  | none => simp [placeholderTable, ofString]
  | some index => simpa using tableOfIndex_eq_nil_iff index

theorem SearchHead.filterStages_eq_nil_iff (h : SearchHead) :
    h.filterStages = [] ↔ h.predicates = [] := by
  unfold filterStages
  split <;> simp_all

/-- The stage of the head is a `where`, which KQL knows. -/
theorem SearchHead.filter_stageVerb_filterStages (h : SearchHead) :
    (h.filterStages.map stageVerb).filter (fun verb => !bundledKql.knows verb) = [] := by
  unfold filterStages
  split
  · rfl
  · have hverb : stageVerb ("where " ++ joinWith " and " h.predicates) = "where" :=
      stageVerb_append_blank (t := "where") (by decide) (opensBlank_cons rfl _)
    rw [List.map_singleton, hverb]
    decide

/-- A verb that a rule writes first, with a blank after it, is the verb of the
stage. -/
theorem knows_stageVerb_append {table : VerbTable} {name : Text}
    (hname : strip name ≠ [] ∧ table.knows (stageVerb name)) (rest : Text) :
    table.knows (stageVerb (name ++ .char ' ' :: rest)) := by
  rw [stageVerb_append_blank hname.1 (opensBlank_cons rfl rest)]
  exact hname.2

/-- A verb of a table of rows is described by one of them. -/
theorem VerbTable.exists_row {rows : List (String × String × String)} {name : Text} {entry : Verb}
    (h : (VerbTable.ofRows rows).find? name = some entry) :
    ∃ row ∈ rows, name = row.1 ∧ entry = ⟨.text row.2.1, .text row.2.2⟩ := by
  obtain ⟨a, b, hrows, -⟩ := List.lookup_eq_some_iff.mp h
  have hmem : (name, entry) ∈ VerbTable.ofRows rows := by
    rw [hrows]
    simp
  obtain ⟨row, hrow, heq⟩ := List.mem_map.mp hmem
  cases heq
  exact ⟨row, hrow, rfl, rfl⟩

theorem bundledKql_knows_equivalents :
    ∀ row ∈ splRows, strip row.2.1 ≠ [] ∧ bundledKql.knows (stageVerb row.2.1) := by
  decide

/-- The equivalents of the bundled commands begin with operators. -/
theorem knows_equivalent {name : Text} {entry : Verb} (h : bundledSpl.find? name = some entry) :
    strip entry.equivalent.display ≠ [] ∧
      bundledKql.knows (stageVerb entry.equivalent.display) := by
  obtain ⟨row, hrow, -, rfl⟩ := VerbTable.exists_row h
  exact bundledKql_knows_equivalents row hrow

/-- The operators that the rule of a command writes; `fields` has two. -/
def SplCommand.operators : SplCommand → List Text
  | .stats => ["summarize"]
  | .eval => ["extend"]
  | .filter => ["where"]
  | .fields => ["project", "project-away"]
  | .table => ["project"]
  | .sort => ["order"]
  | .head => ["take"]
  | .dedup => ["distinct"]
  | .rename => ["project-rename"]
  | .mvexpand => ["mv-expand"]
  | .spath => ["extend"]
  | .rex => ["parse"]
  | .timechart => ["summarize"]
  | .other => []

/-- **A rule for SPL writes an operator of KQL first**, with a blank after
it. -/
theorem exists_operator_commandToKql (stage : Text) {verb : Text}
    (hrule : SplCommand.ofVerb verb ≠ .other) (equivalent : Doc) :
    ∃ operator ∈ (SplCommand.ofVerb verb).operators, ∃ rest : Text,
      (commandToKql stage verb equivalent).text = operator ++ .char ' ' :: rest := by
  unfold commandToKql
  cases hcommand : SplCommand.ofVerb verb with
  | stats => exact ⟨"summarize", by decide, _, rfl⟩
  | eval => exact ⟨"extend", by decide, _, rfl⟩
  | filter => exact ⟨"where", by decide, _, rfl⟩
  | fields =>
    simp only [Fragment.plain, fieldsToKql]
    split
    · exact ⟨"project", by decide, _, rfl⟩
    · exact ⟨"project-away", by decide, _, rfl⟩
    · exact ⟨"project", by decide, _, rfl⟩
  | table => exact ⟨"project", by decide, _, rfl⟩
  | sort =>
    simp only [Fragment.plain, sortToKql]
    split
    · exact ⟨"order", by decide, _, rfl⟩
    · exact ⟨"order", by decide, _, rfl⟩
  | head => exact ⟨"take", by decide, _, rfl⟩
  | dedup => exact ⟨"distinct", by decide, _, rfl⟩
  | rename =>
    simp only [Fragment.plain, renameToKql]
    split
    · exact ⟨"project-rename", by decide, _, rfl⟩
    · exact ⟨"project-rename", by decide, _, rfl⟩
  | mvexpand => exact ⟨"mv-expand", by decide, _, rfl⟩
  | spath =>
    simp only [spathToKql]
    split
    · exact ⟨"extend", by decide, _, rfl⟩
    · exact ⟨"extend", by decide, _, rfl⟩
  | rex => exact ⟨"parse", by decide, _, rfl⟩
  | timechart =>
    simp only [Fragment.plain, timechartToKql]
    split
    · exact ⟨"summarize", by decide, _, rfl⟩
    · exact ⟨"summarize", by decide, _, rfl⟩
  | other => exact absurd hcommand hrule

theorem bundledKql_knows_operators (command : SplCommand) :
    ∀ operator ∈ command.operators,
      strip operator ≠ [] ∧ bundledKql.knows (stageVerb operator) := by
  cases command <;> decide

/-- What a known command becomes has an operator of KQL as its verb. -/
theorem knows_stageVerb_commandToKql (stage : Text) {verb : Text} {entry : Verb}
    (h : bundledSpl.find? verb = some entry) :
    bundledKql.knows (stageVerb (commandToKql stage verb entry.equivalent).text) := by
  by_cases hrule : SplCommand.ofVerb verb = .other
  · unfold commandToKql
    rw [hrule]
    simp only [genericToKql, List.append_assoc]
    exact knows_stageVerb_append (knows_equivalent h) _
  · obtain ⟨operator, hoperator, rest, htext⟩ :=
      exists_operator_commandToKql stage hrule entry.equivalent
    rw [htext]
    exact knows_stageVerb_append (bundledKql_knows_operators _ operator hoperator) rest

theorem stageVerb_unknownToKql {stage : Text} (hstage : strip stage ≠ []) :
    stageVerb (unknownToKql stage (stageVerb stage)).text = stageVerb stage :=
  stageVerb_append_blank hstage (opensBlank_cons rfl _)

/-- A stage is warned of when neither language knows its verb. -/
theorem knows_stageVerb_stageToKql {stage : Text} (hstage : strip stage ≠ []) :
    bundledKql.knows (stageVerb (stageToKql bundledSpl stage).text) =
      (bundledSpl.knows (stageVerb stage) || bundledKql.knows (stageVerb stage)) := by
  have hknows : bundledSpl.knows (stageVerb stage) =
      (bundledSpl.find? (stageVerb stage)).isSome := rfl
  rw [hknows]
  cases hfind : bundledSpl.find? (stageVerb stage) with
  | some entry =>
    rw [stageToKql_of_some hfind, knows_stageVerb_commandToKql stage hfind]
    rfl
  | none =>
    rw [stageToKql_of_none hfind, stageVerb_unknownToKql hstage]
    rfl

/-- The verb of a stage that no rule applied to is the one it had. -/
theorem stageVerb_stageToKql {stage : Text} (hstage : strip stage ≠ [])
    (hverb : bundledSpl.knows (stageVerb stage) = false) :
    stageVerb (stageToKql bundledSpl stage).text = stageVerb stage := by
  have hfind : bundledSpl.find? (stageVerb stage) = none := by
    simpa [VerbTable.knows] using hverb
  rw [stageToKql_of_none hfind, stageVerb_unknownToKql hstage]

/-- The verbs of converted stages that KQL does not know are the verbs of the
stages that neither language knows. -/
theorem filter_stageVerb_stageToKql : ∀ {stages : List Text}, (∀ stage ∈ stages, strip stage ≠ []) →
    (stages.map fun stage => stageVerb (stageToKql bundledSpl stage).text).filter
        (fun verb => !bundledKql.knows verb) =
      (stages.map stageVerb).filter fun verb => !bundledSpl.knows verb && !bundledKql.knows verb
  | [], _ => rfl
  | stage :: stages, h => by
    obtain ⟨hstage, hstages⟩ := List.forall_mem_cons.mp h
    have ih := filter_stageVerb_stageToKql hstages
    have hknows := knows_stageVerb_stageToKql hstage
    rw [List.map_cons, List.map_cons, List.filter_cons, List.filter_cons, ih, hknows]
    cases hspl : bundledSpl.knows (stageVerb stage) with
    | true => rfl
    | false => rw [stageVerb_stageToKql hstage hspl]; rfl

/-- The warning on an operator that KQL does not know. -/
def unknownOperator (verb : Text) : Text := "Unknown KQL operator: " ++ verb

/-- What is found in a text that is written stage by stage. -/
theorem validateKql_flatMap (operators : VerbTable) {x : Text} {ys : List Text}
    (hx : ∀ c ∈ x, isInk c ∧ c ≠ pipe) (hys : ∀ y ∈ ys, pipe ∉ y ∧ strip y ≠ []) :
    validateKql (some operators) (x ++ ys.flatMap fun y => .char '\n' :: pipe :: .char ' ' :: y) =
      ⟨if x = [] ∧ ys ≠ [] then [missingTable] else [],
        (if ys = [] then [missingPipe "operators"] else []) ++
          ((ys.map stageVerb).filter fun verb => !operators.knows verb).map unknownOperator⟩ := by
  have hfree : pipe ∉ x := fun hm => (hx pipe hm).2 rfl
  have hverbs := verbsOf_drop_cutAt_flatMap (b := '\n') rfl hfree hys
  unfold validateKql
  rw [kqlErrors_flatMap hx, kqlPipeWarnings_flatMap hx]
  simp only [Option.map_some, Option.getD_some, kqlVerbWarnings, hverbs]
  rfl

/-- **What is found in a converted search.** The only error is that the table
is missing, when the index is made of wildcards and quotes and there is a
stage. A warning on a verb comes from a stage whose verb neither language
knows: no rule writes an unknown operator. -/
theorem outputFindings_convertSpl (loadedAt : Stamp) (query : Text) :
    let head := SearchHead.ofText (Pipeline.ofQuery query).head
    let stages := (Pipeline.ofQuery query).stages
    (convertSpl (.bundled loadedAt) query).outputFindings =
        ⟨if head.index.any isWildcard ∧ (head.predicates ≠ [] ∨ stages ≠ []) then [missingTable]
            else [],
          (if head.predicates = [] ∧ stages = [] then [missingPipe "operators"] else []) ++
            ((stages.map stageVerb).filter fun verb =>
                !bundledSpl.knows verb && !bundledKql.knows verb).map unknownOperator⟩ ∧
      ∀ stage ∈ stages, bundledSpl.knows (stageVerb stage) →
        bundledKql.knows (stageVerb (stageInKql bundledSpl stage)) := by
  intro head stages
  have hcanonical := Pipeline.isCanonical_ofQuery query
  have hstage : ∀ stage ∈ stages, (stageToKql bundledSpl stage).text.IsStage ∧
      strip (stageToKql bundledSpl stage).text = stageInKql bundledSpl stage := fun stage hs =>
    stageToKql_spec hasPlainEquivalents_bundledSpl (hcanonical.isPiece_stage stage hs)
      (hcanonical.strip_stage stage hs) (hcanonical.stage_ne_nil stage hs)
  have hink : ∀ stage ∈ stages, strip stage ≠ [] := fun stage hs => by
    rw [hcanonical.strip_stage stage hs]
    exact hcanonical.stage_ne_nil stage hs
  constructor
  · have htable : ∀ c ∈ head.table, isInk c ∧ c ≠ pipe := fun c hc =>
      ⟨SearchHead.ink_table _ c hc, (SearchHead.isPiece_table hcanonical.isPiece_head c hc).1⟩
    have hlines : ∀ y ∈ head.filterStages ++ stages.map fun s => (stageToKql bundledSpl s).text,
        pipe ∉ y ∧ strip y ≠ [] := by
      intro y hy
      rcases List.mem_append.mp hy with hy | hy
      · have h := (SearchHead.filterStage_spec hcanonical.isPiece_head hy).1
        exact ⟨h.1.not_mem, h.2⟩
      · obtain ⟨stage, hs, rfl⟩ := List.mem_map.mp hy
        exact ⟨(hstage stage hs).1.1.not_mem, (hstage stage hs).1.2⟩
    have hfind := validateKql_flatMap bundledKql htable hlines
    rw [← queryToKql_text] at hfind
    refine hfind.trans ?_
    rw [List.map_append, List.filter_append, SearchHead.filter_stageVerb_filterStages, List.map_map,
      List.nil_append, ← filter_stageVerb_stageToKql hink]
    simp only [SearchHead.table_eq_nil_iff, ne_eq, List.append_eq_nil_iff, List.map_eq_nil_iff,
      SearchHead.filterStages_eq_nil_iff, Classical.not_and_iff_not_or_not, Function.comp_def]
  · intro stage hs hknown
    have h := knows_stageVerb_stageToKql (hink stage hs)
    rw [hknown, ← stageVerb_strip, (hstage stage hs).2] at h
    exact h

/-! ### From KQL to SPL -/

/-- The index and the source type hold no pipe. -/
def Entry.IsPipeFree (e : Entry) : Prop :=
  pipe ∉ e.index ∧ ∀ sourcetype, e.sourcetype = some sourcetype → pipe ∉ sourcetype

theorem Entry.IsPipeFree.not_mem_search {e : Entry} (h : e.IsPipeFree) : pipe ∉ e.search := by
  have hterm : pipe ∉ e.sourcetypeTerm := by
    unfold sourcetypeTerm
    split
    · rename_i c sourcetype hs
      have hfree := h.2 _ hs
      simp only [List.mem_append, not_or]
      exact ⟨⟨by decide, hfree⟩, by decide⟩
    · simp
  simp only [search, List.mem_append, not_or]
  exact ⟨⟨by decide, h.1⟩, hterm⟩

/-- The warning on a command that SPL does not know. -/
def unknownCommand (verb : Text) : Text := "Unknown SPL command: " ++ verb

/-- Predicates that are appended begin with a blank. -/
theorem opensBlank_flatMap_filterInSpl (filters : List Text) :
    OpensBlank (filters.flatMap filterInSpl) := by
  cases filters with
  | nil => exact OpensBlank.of_blank (by simp)
  | cons stage filters => exact opensBlank_cons rfl _

/-- **A rule for KQL writes a command of SPL first.** A stage without a rule
keeps its verb. -/
theorem stageVerb_stageInSpl {stage : Text} (hstage : strip stage ≠ [])
    (hverb : stageVerb stage ≠ "where") :
    (KqlOperator.ofVerb (stageVerb stage) ≠ .other →
      bundledSpl.knows (stageVerb (stageInSpl stage))) ∧
      (KqlOperator.ofVerb (stageVerb stage) = .other →
        stageVerb (stageInSpl stage) = stageVerb stage) := by
  have writes : ∀ (name rest : Text), strip name ≠ [] ∧ bundledSpl.knows (stageVerb name) →
      bundledSpl.knows (stageVerb (name ++ .char ' ' :: rest)) := fun _ rest hname =>
    knows_stageVerb_append hname rest
  unfold stageInSpl operatorToSpl
  cases hop : KqlOperator.ofVerb (stageVerb stage) with
  | filter => exact absurd ((KqlOperator.ofVerb_eq_filter_iff _).mp hop) hverb
  | summarize => exact ⟨fun _ => writes "stats" _ (by decide), nofun⟩
  | extend => exact ⟨fun _ => writes "eval" _ (by decide), nofun⟩
  | project => exact ⟨fun _ => writes "fields" _ (by decide), nofun⟩
  | projectAway => exact ⟨fun _ => writes "fields" _ (by decide), nofun⟩
  | projectRename =>
    refine ⟨fun _ => ?_, nofun⟩
    simp only [Fragment.plain, projectRenameToSpl]
    split
    · exact writes "rename" _ (by decide)
    · exact writes "rename" _ (by decide)
  | order =>
    refine ⟨fun _ => ?_, nofun⟩
    simp only [Fragment.plain, orderToSpl]
    split
    · exact writes "sort" _ (by decide)
    · exact writes "sort" _ (by decide)
    · exact writes "sort" _ (by decide)
  | take => exact ⟨fun _ => writes "head" _ (by decide), nofun⟩
  | distinct => exact ⟨fun _ => writes "dedup" _ (by decide), nofun⟩
  | mvExpand => exact ⟨fun _ => writes "mvexpand" _ (by decide), nofun⟩
  | parse => exact ⟨fun _ => writes "rex" _ (by decide), nofun⟩
  | other =>
    exact ⟨fun h => absurd rfl h, fun _ => stageVerb_append_blank hstage (opensBlank_cons rfl _)⟩

/-- Whether a converted stage with the given operator is warned of: there is
no rule for the operator, and SPL does not know it either. -/
def isUnknownInSpl (operator : Text) : Bool :=
  KqlOperator.ofVerb operator == .other && !bundledSpl.knows operator &&
    !startsWithAny searchStarts operator

theorem isUnknownInSpl_stageVerb {stage : Text} (hstage : strip stage ≠ [])
    (hverb : stageVerb stage ≠ "where") :
    (!bundledSpl.knows (stageVerb (stageInSpl stage)) &&
        !startsWithAny searchStarts (stageVerb (stageInSpl stage))) =
        isUnknownInSpl (stageVerb stage) ∧
      (isUnknownInSpl (stageVerb stage) → stageVerb (stageInSpl stage) = stageVerb stage) := by
  obtain ⟨hrule, hother⟩ := stageVerb_stageInSpl hstage hverb
  by_cases hop : KqlOperator.ofVerb (stageVerb stage) = .other
  · rw [hother hop]
    simp [isUnknownInSpl, hop]
  · have hbeq : (KqlOperator.ofVerb (stageVerb stage) == .other) = false := by simpa using hop
    simp [isUnknownInSpl, hbeq, hrule hop]

/-- `where` stages are not warned of. -/
theorem filter_isUnknownInSpl_of_filters {filters : List Text}
    (h : ∀ stage ∈ filters, stageVerb stage = "where") :
    (filters.map stageVerb).filter isUnknownInSpl = [] := by
  rw [List.filter_eq_nil_iff]
  intro verb hv
  obtain ⟨stage, hs, rfl⟩ := List.mem_map.mp hv
  rw [h stage hs]
  decide

/-- Appended predicates do not change the verb of a command. -/
theorem stageVerb_stageInSpl_append {stage : Text} (hstage : stage.IsPiece)
    (hverb : stageVerb stage ≠ "where") (filters : List Text) :
    stageVerb (stageInSpl stage ++ filters.flatMap filterInSpl) = stageVerb (stageInSpl stage) := by
  obtain ⟨-, hcommand, -⟩ := operatorToSpl_of_ne_filter hstage hverb true
  exact stageVerb_append_blank hcommand.2 (opensBlank_flatMap_filterInSpl filters)

/-- Of grouped stages those are warned of that are unknown, whatever
predicates are appended to them. -/
theorem IsGrouping.filter_stageVerb {stages leading : List Text} {groups : List (Text × List Text)}
    (h : IsGrouping stages leading groups) (hstages : ∀ stage ∈ stages, stage.IsStage) :
    (groups.map fun group => stageVerb (stageInSpl group.1 ++ group.2.flatMap filterInSpl)).filter
        (fun verb => !bundledSpl.knows verb && !startsWithAny searchStarts verb) =
      (stages.map stageVerb).filter isUnknownInSpl := by
  obtain ⟨rfl, hleading, hcommand, hfilters⟩ := h
  rw [List.map_append, List.filter_append, filter_isUnknownInSpl_of_filters hleading,
    List.nil_append]
  replace hstages := fun stage hs => hstages stage (List.mem_append_right leading hs)
  induction groups with
  | nil => rfl
  | cons group groups ih =>
    obtain ⟨stage, filters⟩ := group
    obtain ⟨hverb, hcommand⟩ := List.forall_mem_cons.mp hcommand
    obtain ⟨hwhere, hfilters⟩ := List.forall_mem_cons.mp hfilters
    rw [List.flatMap_cons] at hstages
    obtain ⟨hstage, -⟩ := List.forall_mem_cons.mp hstages
    have ih := ih hcommand hfilters fun s hs => hstages s (List.mem_append_right _ hs)
    obtain ⟨hwarned, hkept⟩ := isUnknownInSpl_stageVerb hstage.2 hverb
    rw [List.map_cons, List.filter_cons, stageVerb_stageInSpl_append hstage.1 hverb, hwarned, ih,
      List.flatMap_cons, List.map_append, List.map_cons, List.cons_append, List.filter_cons,
      List.filter_append, filter_isUnknownInSpl_of_filters hwhere, List.nil_append]
    cases hunknown : isUnknownInSpl (stageVerb stage) with
    | true => rw [hkept hunknown]
    | false => rfl

theorem Text.startsWith_append (start rest : Text) : startsWith start (start ++ rest) := by
  rw [startsWith, dropStart?_eq_some_iff.mpr rfl, Option.isSome_some]

/-- A search that begins with an index is no command. -/
theorem startsWithAny_stageVerb_index (rest : Text) :
    startsWithAny searchStarts (stageVerb ("index=" ++ rest)) := by
  have hink : ∀ c ∈ ("index=" : Text), isInk c := List.all_eq_true.mp rfl
  have hverb : stageVerb ("index=" ++ rest) = "index=" ++ rest.takeWhile isInk := by
    have hstart : stripStart ("index=" ++ rest) = "index=" ++ rest :=
      stripStart_cons_ink (by decide : isInk 'i') _
    rw [stageVerb_eq, hstart, List.takeWhile_append_of_pos hink]
  rw [hverb, startsWithAny, List.any_eq_true]
  exact ⟨"index=", by simp [searchStarts], startsWith_append _ _⟩

theorem strip_index_ne_nil (rest : Text) : strip ("index=" ++ rest) ≠ [] := by
  rw [Ne, strip_eq_nil_iff]
  intro hblank
  cases hblank 'i' (by simp [ofString])

/-- A search that begins with an index needs no pipe. -/
theorem splPipeWarnings_index (rest : Text) : splPipeWarnings ("index=" ++ rest) = [] := by
  have hstart : startsWithAny pipelessStarts ("index=" ++ rest) := by
    rw [startsWithAny, List.any_eq_true]
    exact ⟨"index=", by simp [pipelessStarts], startsWith_append _ _⟩
  rw [splPipeWarnings, hstart, Bool.or_true, if_pos rfl]

/-- What is found in a search that begins with an index and is written stage
by stage. -/
theorem validateSpl_flatMap (commands : VerbTable) {rest : Text} {ys : List Text}
    (hrest : pipe ∉ rest) (hys : ∀ y ∈ ys, pipe ∉ y ∧ strip y ≠ []) :
    validateSpl (some commands)
        ("index=" ++ rest ++ ys.flatMap fun y => .char ' ' :: pipe :: .char ' ' :: y) =
      ⟨[], ((ys.map stageVerb).filter fun verb =>
          !commands.knows verb && !startsWithAny searchStarts verb).map unknownCommand⟩ := by
  have hfree : pipe ∉ "index=" ++ rest := by
    rw [List.mem_append, not_or]
    exact ⟨by decide, hrest⟩
  have hverbs := verbsOf_cutAt_flatMap (b := ' ') rfl hfree hys (strip_index_ne_nil rest)
  have hpipe : splPipeWarnings
      ("index=" ++ rest ++ ys.flatMap fun y => .char ' ' :: pipe :: .char ' ' :: y) = [] := by
    rw [List.append_assoc]
    exact splPipeWarnings_index _
  unfold validateSpl
  rw [hpipe]
  simp only [Option.map_some, Option.getD_some, splVerbWarnings, hverbs, List.filter_cons,
    startsWithAny_stageVerb_index, Bool.not_true, Bool.and_false, Bool.false_eq_true, if_false,
    List.nil_append]
  rfl

theorem outputFindings_convertKql_of_queryToSpl {v : Vocabulary} {m : TableMapping} {query : Text}
    {spl : Fragment} (h : queryToSpl m query = .ok spl) :
    (convertKql v m query).outputFindings = validateSpl (some v.spl) spl.text := by
  unfold convertKql
  rw [h]
  rfl

/-- **What is found in a converted KQL query.** There is no error and no
warning on a missing pipe, and a warning on a verb comes from a stage without
a rule whose operator SPL does not know. -/
theorem outputFindings_convertKql (loadedAt : Stamp) (m : TableMapping) (hm : m.HasTextKeys)
    (query : Text)
    (hentry : ∀ entry usedDefault,
      m.resolve (Pipeline.ofQuery query).head = .ok (entry, usedDefault) → entry.IsPipeFree) :
    (convertKql (.bundled loadedAt) m query).outputFindings =
        ⟨[], (((Pipeline.ofQuery query).stages.map stageVerb).filter isUnknownInSpl).map
          unknownCommand⟩ ∧
      missingPipe "commands" ∉ (convertKql (.bundled loadedAt) m query).outputFindings.warnings := by
  have hcanonical := Pipeline.isCanonical_ofQuery query
  obtain ⟨entry, usedDefault, hresolve⟩ :=
    TableMapping.resolve_eq_ok hm (Pipeline.ofQuery query).head
  have hfree := (hentry entry usedDefault hresolve).not_mem_search
  obtain ⟨search, hsearch, htext, -⟩ := tableToSpl_of_resolve hresolve
  have hfindings := outputFindings_convertKql_of_queryToSpl (v := .bundled loadedAt)
    (queryToSpl_of_tableToSpl hsearch)
  generalize Pipeline.ofQuery query = p at *
  have hstage : ∀ stage ∈ p.stages, stage.IsStage := fun stage hs =>
    ⟨hcanonical.isPiece_stage stage hs, by
      rw [hcanonical.strip_stage stage hs]
      exact hcanonical.stage_ne_nil stage hs⟩
  have hgrouping := isGrouping_filterGroups p.stages
  generalize filterGroups p.stages = grouped at hgrouping
  obtain ⟨leading, groups⟩ := grouped
  have hspl : (search ++ stagesToSpl true p.stages).text =
      "index=" ++ (entry.index ++ entry.sourcetypeTerm ++ leading.flatMap filterInSpl) ++
        (groups.map fun group => stageInSpl group.1 ++ group.2.flatMap filterInSpl).flatMap
          fun y => .char ' ' :: pipe :: .char ' ' :: y := by
    have hstages := hgrouping.stagesToSpl_text hcanonical.isPiece_stage true
    calc (search ++ stagesToSpl true p.stages).text
        = search.text ++ (stagesToSpl true p.stages).text := rfl
      _ = _ := by
        rw [htext, hstages, Entry.search]
        simp only [List.append_assoc]
  have hrest : pipe ∉ entry.index ++ entry.sourcetypeTerm ++ leading.flatMap filterInSpl := by
    have hleading := (hgrouping.isPiece_leadingPredicates hcanonical.isPiece_stage).not_mem
    simp only [Entry.search, List.mem_append, not_or] at hfree ⊢
    exact ⟨⟨hfree.1.2, hfree.2⟩, hleading⟩
  have hcommand := hgrouping.isStage_command hcanonical.isPiece_stage
  have hvalid := validateSpl_flatMap bundledSpl hrest fun y hy =>
    ⟨(hcommand y hy).1.not_mem, (hcommand y hy).2⟩
  rw [List.map_map, ← hspl] at hvalid
  have hwarnings : (convertKql (.bundled loadedAt) m query).outputFindings =
      ⟨[], ((p.stages.map stageVerb).filter isUnknownInSpl).map unknownCommand⟩ := by
    rw [hfindings, ← hgrouping.filter_stageVerb hstage]
    exact hvalid
  refine ⟨hwarnings, fun hmem => ?_⟩
  rw [hwarnings] at hmem
  obtain ⟨verb, -, hverb⟩ := List.mem_map.mp hmem
  exact absurd (List.cons.inj hverb).1 (by decide)

/-- The mapping of every table to an index with a line break in it. -/
def brokenMapping : TableMapping := ⟨[(.text defaultName, ⟨"web\nmail", none, []⟩)], 1, rfl⟩

/-- A late predicate, a stage that begins a search, and two operators that SPL
does not know. -/
theorem outputFindings_convertKql_late :
    brokenMapping.HasTextKeys ∧
      (∀ entry usedDefault,
        brokenMapping.resolve "Logins" = .ok (entry, usedDefault) → entry.IsPipeFree) ∧
      (convertKql (.bundled ⟨0, some 0⟩) brokenMapping
        "Logins | where a == 1 | order by n | where b | source=x | frob y | as z | top 5").outputFindings =
        ⟨[], ["Unknown SPL command: frob", "Unknown SPL command: as"]⟩ := by
  have hkeys : brokenMapping.HasTextKeys := fun row hrow =>
    ⟨defaultName, congrArg Prod.fst (List.mem_singleton.mp hrow)⟩
  have hfree : ∀ entry usedDefault,
      brokenMapping.resolve "Logins" = .ok (entry, usedDefault) → entry.IsPipeFree := by
    intro entry usedDefault h
    obtain rfl : ⟨"web\nmail", none, []⟩ = entry := congrArg Prod.fst (Except.ok.inj h)
    refine ⟨by decide, ?_⟩
    rintro _ ⟨⟩
  obtain ⟨hfindings, -⟩ := outputFindings_convertKql ⟨0, some 0⟩ brokenMapping hkeys
    "Logins | where a == 1 | order by n | where b | source=x | frob y | as z | top 5" hfree
  refine ⟨hkeys, hfree, hfindings.trans ?_⟩
  decide

end TwinQuery
