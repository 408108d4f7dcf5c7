/-
# Validation and conversion know the same operators

The validation of a KQL query looks at the first line that is not blank and
cuts the query at its pipes as it is written; the conversion joins the lines
first. They agree on what is missing and on what is unknown.

The table is missing for both at the same time: a query begins with a pipe
exactly when it has a pipe and the head of its pipeline is empty
(`kqlErrors_eq_head`). The verbs that are warned of are those of the stages
that the vocabulary does not know, and the verbs that are noted those of the
stages without a rule (`filter_notes_stagesToSpl`). A verb has a rule when it
is the name of an operator or a second name of one
(`KqlOperator.ofVerb_eq_other_iff`), and the bundled vocabulary knows all of
these, so that no operator with a rule is ever warned of.

Key definitions: `KqlOperator.verbs`, `rulelessVerbs`.
Key theorems: `kqlErrors_eq_head`, `KqlOperator.ofVerb_eq_other_iff`,
`filter_notes_stagesToSpl`, `unknown_operators_warned_and_noted`.
-/
import TwinQuery.Proofs.Extension

namespace TwinQuery

open Text

/-! ### The missing table -/

/-- The head of a query is what stands before its first pipe. -/
theorem Pipeline.head_append_pipe {a : Text} (ha : pipe ∉ a) (b : Text) :
    (ofQuery (a ++ pipe :: b)).head = joinLines a := by
  have hcut : cutAt pipe (a ++ pipe :: b) = a :: cutAt pipe b := by
    rw [cutAt_append_mark, cutAt_of_not_mem ha, List.singleton_append]
  rw [ofQuery_of_cutAt hcut]

/-- **A query begins with a pipe exactly when its table is missing.** -/
theorem kqlErrors_eq_head (query : Text) :
    kqlErrors query =
      if pipe ∈ query ∧ (Pipeline.ofQuery query).head = [] then [missingTable] else [] := by
  by_cases hpipe : pipe ∈ query
  · obtain ⟨a, b, rfl, ha⟩ := List.eq_append_cons_of_mem hpipe
    rw [Pipeline.head_append_pipe ha]
    by_cases hblank : strip a = []
    · have hjoin := (joinLines_eq_nil_iff a).mpr hblank
      rw [kqlErrors_of_ink ((strip_eq_nil_iff a).mp hblank) isInk_pipe, if_pos rfl,
        if_pos ⟨hpipe, hjoin⟩]
    · -- the first character that is not blank stands before the pipe
      have hjoin : joinLines a ≠ [] := fun h => hblank ((joinLines_eq_nil_iff a).mp h)
      have hne : ¬ (pipe ∈ a ++ pipe :: b ∧ joinLines a = []) := fun h => hjoin h.2
      obtain ⟨x, c, y, hx, hc, rfl⟩ := exists_first_ink hblank
      have hcne : c ≠ pipe := by
        rintro rfl
        exact ha (by simp)
      rw [if_neg hne, List.append_assoc, List.cons_append, kqlErrors_of_ink hx hc, if_neg hcne]
  · have hfree : ¬ (pipe ∈ query ∧ (Pipeline.ofQuery query).head = []) := fun h => hpipe h.1
    have hhead : (joinLines query).head? ≠ some pipe := by
      intro h
      rcases List.mem_cons.mp (joinLines_subset query (List.mem_of_head? h)) with h | h
      · cases h
      · exact hpipe h
    rw [kqlErrors_eq, if_neg hhead, if_neg hfree]

/-! ### Operators with a rule -/

namespace KqlOperator

/-- The verbs with a rule: the names of the operators and their second
names. -/
def verbs : List Text := all.map name ++ synonyms.map Prod.fst

theorem mem_all {operator : KqlOperator} (h : operator ≠ .other) : operator ∈ all := by
  cases operator with
  | other => exact absurd rfl h
  | _ => decide

/-- **A verb has no rule exactly when it is not the name of an operator.** -/
theorem ofVerb_eq_other_iff (verb : Text) : ofVerb verb = .other ↔ verb ∉ verbs := by
  constructor
  · intro hother hverb
    have hrule : ∀ verb ∈ verbs, ofVerb verb ≠ .other := by decide
    exact hrule verb hverb hother
  · intro hverb
    rcases ofVerb_spec verb with hother | hname | hsynonym
    · exact hother
    · refine Decidable.byContradiction fun hother => hverb (List.mem_append_left _ ?_)
      rw [hname]
      exact List.mem_map_of_mem (mem_all hother)
    · exact absurd (List.mem_append_right _ (List.mem_map_of_mem hsynonym)) hverb

end KqlOperator

/-- The verbs of the stages of a query that have no rule. -/
def rulelessVerbs (query : Text) : List Text :=
  ((Pipeline.ofQuery query).stages.map stageVerb).filter fun verb => verb ∉ KqlOperator.verbs

theorem bundledKql_knows_verbs : ∀ verb ∈ KqlOperator.verbs, bundledKql.knows verb := by decide

/-- What the bundled vocabulary does not know has no rule either. -/
theorem unknownVerbs_bundledKql (query : Text) :
    unknownVerbs bundledKql query =
      (rulelessVerbs query).filter fun verb => !bundledKql.knows verb := by
  have hverbs : ∀ verb, bundledKql.knows verb = false → verb ∉ KqlOperator.verbs := by
    intro verb hunknown hverb
    rw [bundledKql_knows_verbs verb hverb] at hunknown
    cases hunknown
  unfold unknownVerbs rulelessVerbs
  rw [List.filter_filter]
  refine List.filter_congr fun verb _ => ?_
  cases hknows : bundledKql.knows verb with
  | true => rfl
  | false => simpa using hverbs verb hknows

/-! ### Warnings and notes -/

/-- Of the warnings on a KQL query those on unknown operators are what is
found in the verbs of its stages. -/
theorem filter_warnings_validateKql (operators : VerbTable) (query : Text) :
    (validateKql (some operators) query).warnings.filter (startsWith "Unknown KQL operator: ") =
      (unknownVerbs operators query).map unknownOperator := by
  have hpipe : (kqlPipeWarnings query).filter (startsWith "Unknown KQL operator: ") = [] := by
    unfold kqlPipeWarnings
    split
    · rfl
    · decide
  have hwarnings : (validateKql (some operators) query).warnings =
      kqlPipeWarnings query ++ (unknownVerbs operators query).map unknownOperator := by
    unfold unknownVerbs
    rw [← verbsOf_drop_cutAt]
    rfl
  rw [hwarnings, List.filter_append, hpipe, List.nil_append]
  exact filter_startsWith_map "Unknown KQL operator: " _

/-- The validation warns of a verb when a stage has it and it is unknown. -/
theorem unknownOperator_mem_warnings_iff (operators : VerbTable) (query verb : Text) :
    unknownOperator verb ∈ (validateKql (some operators) query).warnings ↔
      verb ∈ unknownVerbs operators query := by
  constructor
  · intro hwarned
    have hmem : unknownOperator verb ∈ (unknownVerbs operators query).map unknownOperator := by
      rw [← filter_warnings_validateKql]
      exact List.mem_filter.mpr ⟨hwarned, startsWith_append _ _⟩
    obtain ⟨verb', hunknown, heq⟩ := List.mem_map.mp hmem
    rwa [List.append_cancel_left heq] at hunknown
  · intro hunknown
    have hmem := List.mem_map_of_mem (f := unknownOperator) hunknown
    rw [← filter_warnings_validateKql] at hmem
    exact (List.mem_filter.mp hmem).1

theorem filter_notes_table (entry : Entry) (usedDefault : Bool) (table : Text) :
    (entry.placeNote table :: (if usedDefault then [unknownTableNote table] else [])).filter
      (startsWith "Unknown KQL operator: ") = [] := by
  have other : ∀ {c : CodePoint} {note : Text}, 'U' ≠ c →
      ¬ startsWith "Unknown KQL operator: " (c :: note) :=
    fun hc => by simp [ofString, not_startsWith_of_ne hc]
  rw [List.filter_eq_nil_iff]
  intro note hnote
  rcases List.mem_cons.mp hnote with rfl | hnote
  · exact other (c := 'M') (by decide)
  · cases usedDefault with
    | false => cases hnote
    | true =>
      rw [List.mem_singleton.mp hnote]
      exact other (c := 'W') (by decide)

/-- **A stage is noted as unknown exactly when it has no rule**, wherever it
stands. -/
theorem filter_notes_operatorToSpl (stage verb : Text) (inline : Bool) :
    (operatorToSpl stage verb inline).notes.filter (startsWith "Unknown KQL operator: ") =
      if verb ∈ KqlOperator.verbs then [] else [unknownOperator verb] := by
  have hrule : verb ∈ KqlOperator.verbs ↔ KqlOperator.ofVerb verb ≠ .other := by
    rw [Ne, KqlOperator.ofVerb_eq_other_iff, Decidable.not_not]
  simp only [hrule]
  unfold operatorToSpl
  cases KqlOperator.ofVerb verb with
  | filter => cases inline <;> rfl
  | parse => rfl
  | other =>
    have hstart : startsWith "Unknown KQL operator: " (unknownOperator verb) :=
      startsWith_append _ _
    exact List.filter_cons_of_pos hstart
  | _ => rfl

theorem filter_notes_stagesToSpl : ∀ (stages : List Text) (inline : Bool),
    (stagesToSpl inline stages).notes.filter (startsWith "Unknown KQL operator: ") =
      ((stages.map stageVerb).filter fun verb => verb ∉ KqlOperator.verbs).map unknownOperator
  | [], _ => rfl
  | stage :: stages, inline => by
    have ih := filter_notes_stagesToSpl stages (inline && isFilterStage stage)
    have hnotes : (stagesToSpl inline (stage :: stages)).notes =
        (operatorToSpl stage (stageVerb stage) inline).notes ++
          (stagesToSpl (inline && isFilterStage stage) stages).notes := rfl
    rw [hnotes, List.filter_append, filter_notes_operatorToSpl, ih, List.map_cons, List.filter_cons]
    by_cases hverb : stageVerb stage ∈ KqlOperator.verbs <;> simp [hverb]

/-- **A KQL query is validated and converted with the same operators.** It is
an error when the table is missing, and only then. The warnings on unknown
operators are those of the verbs of the stages that the vocabulary does not
know, in order, and the notes on unknown operators those of the verbs of the
stages without a rule. With the bundled vocabulary the verbs that are warned
of are those that are noted and that it does not know, and so an operator with
a rule is never warned of. -/
theorem unknown_operators_warned_and_noted (m : TableMapping) (hm : m.HasTextKeys)
    (operators : VerbTable) (query : Text) :
    (∀ known : Option VerbTable, (validateKql known query).errors ≠ [] ↔
        pipe ∈ query ∧ (Pipeline.ofQuery query).head = []) ∧
      (validateKql (some operators) query).warnings.filter (startsWith "Unknown KQL operator: ") =
        (unknownVerbs operators query).map unknownOperator ∧
      (∃ spl, queryToSpl m query = .ok spl ∧
        spl.notes.filter (startsWith "Unknown KQL operator: ") =
          (rulelessVerbs query).map unknownOperator) ∧
      unknownVerbs bundledKql query =
        (rulelessVerbs query).filter (fun verb => !bundledKql.knows verb) ∧
      ∀ verb ∈ KqlOperator.verbs,
        unknownOperator verb ∉ (validateKql (some bundledKql) query).warnings := by
  refine ⟨fun known => ?_, filter_warnings_validateKql operators query, ?_,
    unknownVerbs_bundledKql query, ?_⟩
  · have herrors : (validateKql known query).errors = kqlErrors query := rfl
    rw [herrors, kqlErrors_eq_head]
    split <;> simp_all
  · obtain ⟨spl, hspl⟩ := queryToSpl_eq_ok hm query
    obtain ⟨entry, usedDefault, -, -, hnotes⟩ := exists_place_of_queryToSpl hspl
    refine ⟨spl, hspl, ?_⟩
    rw [hnotes, List.filter_append, filter_notes_table, filter_notes_stagesToSpl, List.nil_append]
    rfl
  · intro verb hverb hwarned
    have hunknown := (unknownOperator_mem_warnings_iff bundledKql query verb).mp hwarned
    have hknows := (List.mem_filter.mp hunknown).2
    rw [bundledKql_knows_verbs verb hverb] at hknows
    cases hknows

/-- Two pipes on their own lines, an operator without a rule that the bundled
vocabulary knows, and one that it does not know. -/
theorem unknown_operators_warned_and_noted_pipes :
    TableMapping.defaults.HasTextKeys ∧
      pipe ∈ ("\n |\n| join x | frob y | where z" : Text) ∧
      (validateKql none "\n |\n| join x | frob y | where z").errors ≠ [] ∧
      (validateKql (some bundledKql) "\n |\n| join x | frob y | where z").warnings.filter
        (startsWith "Unknown KQL operator: ") = [unknownOperator "frob"] ∧
      ∃ spl, queryToSpl .defaults "\n |\n| join x | frob y | where z" = .ok spl ∧
        spl.notes.filter (startsWith "Unknown KQL operator: ") =
          [unknownOperator "join", unknownOperator "frob"] := by
  obtain ⟨herrors, hwarnings, ⟨spl, hspl, hnotes⟩, -, -⟩ :=
    unknown_operators_warned_and_noted .defaults hasTextKeys_defaults bundledKql
      "\n |\n| join x | frob y | where z"
  have hpipe : pipe ∈ ("\n |\n| join x | frob y | where z" : Text) := by decide
  have hhead : (Pipeline.ofQuery "\n |\n| join x | frob y | where z").head = [] := by decide
  have hunknown : unknownVerbs bundledKql "\n |\n| join x | frob y | where z" =
      [ofString "frob"] := by decide
  have hruleless : rulelessVerbs "\n |\n| join x | frob y | where z" =
      [ofString "join", ofString "frob"] := by decide
  rw [hunknown] at hwarnings
  rw [hruleless] at hnotes
  exact ⟨hasTextKeys_defaults, hpipe, (herrors none).mpr ⟨hpipe, hhead⟩, hwarnings, spl, hspl,
    hnotes⟩

end TwinQuery
