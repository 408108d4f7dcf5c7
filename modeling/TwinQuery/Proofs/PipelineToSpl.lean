/-
# The pipeline of a converted KQL query

In SPL a `where` stage is not a stage of its own: it is appended to what
stands before it, the search or a command. So the stages of a KQL query fall
into groups, the `where` stages before every other stage and then each other
stage with the `where` stages up to the next (`IsGrouping`), and a converted
query has one stage for the search and one for each of the groups
(`toList_ofQuery_queryToSpl`). A `where` that is appended to a command no
longer filters the search, and there is one note for each of them
(`count_lateFilterNote_stagesToSpl`).

Key definitions: `TableMapping.HasTextKeys`, `Entry.IsPlain`, `IsGrouping`,
`stageInSpl`, `filterInSpl`.
Key theorems: `TableMapping.resolve_eq_ok`, `operatorToSpl_of_ne_filter`,
`stagesToSpl_groups_text`, `count_lateFilterNote_stagesToSpl`,
`toList_ofQuery_queryToSpl`.
-/
import TwinQuery.Conversion.ToSpl
import TwinQuery.Proofs.Extraction
import TwinQuery.Proofs.Pipeline
import TwinQuery.TableMapping.Defaults

namespace TwinQuery

open Text

/-! ### The table -/

/-- Every name in the mapping is a text. -/
def TableMapping.HasTextKeys (m : TableMapping) : Prop :=
  ∀ row ∈ m.entries, ∃ name : Text, row.1 = .text name

theorem hasTextKeys_defaults : TableMapping.defaults.HasTextKeys := by
  intro row hrow
  rcases List.mem_append.mp hrow with hrow | hrow
  · obtain ⟨place, -, rfl⟩ := List.mem_map.mp hrow
    exact ⟨place.1, rfl⟩
  · rw [List.mem_singleton.mp hrow]
    exact ⟨defaultName, rfl⟩

/-- The index and the source type hold no pipe and no line break. -/
def Entry.IsPlain (e : Entry) : Prop :=
  e.index.IsPiece ∧ ∀ sourcetype, e.sourcetype = some sourcetype → sourcetype.IsPiece

theorem TableMapping.matchLower_eq_ok (name : Text) : ∀ entries : List (Scalar × Entry),
    (∀ row ∈ entries, ∃ key : Text, row.1 = .text key) →
      ∃ found, matchLower name entries = .ok found
  | [], _ => ⟨none, rfl⟩
  | (key, entry) :: rest, h => by
    obtain ⟨t, rfl⟩ : ∃ t : Text, key = .text t := h (key, entry) List.mem_cons_self
    obtain ⟨found, hfound⟩ := matchLower_eq_ok name rest fun row hr =>
      h row (List.mem_cons_of_mem _ hr)
    unfold matchLower
    split
    · exact ⟨_, rfl⟩
    · exact ⟨found, hfound⟩

/-- **A mapping whose names are texts resolves every table.** -/
theorem TableMapping.resolve_eq_ok {m : TableMapping} (hm : m.HasTextKeys) (name : Text) :
    ∃ entry usedDefault, m.resolve name = .ok (entry, usedDefault) := by
  unfold resolve
  cases m.find? (.text name) with
  | some entry => exact ⟨entry, _, rfl⟩
  | none =>
    obtain ⟨found, hfound⟩ := matchLower_eq_ok (Text.lower name) m.entries hm
    rw [hfound]
    cases found with
    | none => exact ⟨m.fallback, true, rfl⟩
    | some pair => exact ⟨pair.2, _, rfl⟩

theorem Entry.IsPlain.isPiece_search {e : Entry} (h : e.IsPlain) : e.search.IsPiece := by
  have hindex := (by decide : IsPiece "index=").append h.1
  refine hindex.append ?_
  unfold sourcetypeTerm
  split
  · rename_i c sourcetype hs
    exact ((by decide : IsPiece " sourcetype=\"").append (h.2 _ hs)).append (by decide)
  · simp [IsPiece]

/-- A note that begins with another character is not the one on a late
`where`. -/
theorem ne_lateFilterNote {c : CodePoint} {note : Text} (hc : c ≠ 'w') :
    c :: note ≠ lateFilterNote := by
  intro h
  exact hc (List.cons.inj h).1

/-- The SPL of a table is its search, and no note on it is about a `where`. -/
theorem tableToSpl_of_resolve {m : TableMapping} {table : Text} {entry : Entry} {usedDefault : Bool}
    (h : m.resolve table = .ok (entry, usedDefault)) :
    ∃ search, tableToSpl m table = .ok search ∧ search.text = entry.search ∧
      search.notes.count lateFilterNote = 0 := by
  unfold tableToSpl
  rw [h]
  refine ⟨_, rfl, rfl, List.count_eq_zero.mpr fun hmem => ?_⟩
  rcases List.mem_cons.mp hmem with hmem | hmem
  · exact ne_lateFilterNote (by decide) hmem.symm
  · split at hmem
    · exact ne_lateFilterNote (by decide) (List.mem_singleton.mp hmem).symm
    · cases hmem

/-! ### The operators -/

/-- A verb is the name of its operator or a second name of it, unless the
operator has no rule. -/
theorem KqlOperator.ofVerb_spec (verb : Text) :
    ofVerb verb = .other ∨ verb = (ofVerb verb).name ∨ (verb, ofVerb verb) ∈ synonyms := by
  unfold ofVerb
  cases hs : synonyms.lookup verb with
  | some operator =>
    obtain ⟨a, b, h, -⟩ := List.lookup_eq_some_iff.mp hs
    refine Or.inr (Or.inr ?_)
    rw [h]
    simp
  | none =>
    cases hf : all.find? fun operator => operator.name == verb with
    | none => exact Or.inl rfl
    | some operator =>
      have hname := List.find?_some hf
      exact Or.inr (Or.inl (eq_of_beq hname).symm)

/-- An operator with a rule and no second name is read from its name only. -/
theorem KqlOperator.ofVerb_eq_iff {operator : KqlOperator} (hrule : operator ≠ .other)
    (hnames : operator ∉ synonyms.map Prod.snd) (hname : ofVerb operator.name = operator)
    (verb : Text) : ofVerb verb = operator ↔ verb = operator.name := by
  constructor
  · rintro rfl
    rcases ofVerb_spec verb with hv | hv | hv
    · exact absurd hv hrule
    · exact hv
    · exact absurd (List.mem_map_of_mem hv) hnames
  · rintro rfl
    exact hname

/-- Only `where` is read as `where`. -/
theorem KqlOperator.ofVerb_eq_filter_iff (verb : Text) :
    ofVerb verb = .filter ↔ verb = "where" :=
  ofVerb_eq_iff (by decide) (by decide) (by decide) verb

/-- The predicate that a `where` stage appends. -/
def filterInSpl (stage : Text) : Text := " " ++ singleEquals (stageArguments stage "where")

/-- The command that another stage becomes: its SPL after the mark. -/
def stageInSpl (stage : Text) : Text :=
  (operatorToSpl stage (stageVerb stage) false).text.drop 3

theorem isPiece_filterInSpl {stage : Text} (hstage : stage.IsPiece) :
    (filterInSpl stage).IsPiece := by
  have hargs := isPiece_stageArguments hstage "where"
  exact (by decide : IsPiece " ").append (hargs.of_subset (singleEquals_subset _))

theorem operatorToSpl_of_filter {stage : Text} (h : stageVerb stage = "where") (inline : Bool) :
    operatorToSpl stage (stageVerb stage) inline =
      ⟨filterInSpl stage, if inline then [] else [lateFilterNote]⟩ := by
  unfold operatorToSpl
  rw [(KqlOperator.ofVerb_eq_filter_iff _).mpr h, h]
  rfl

theorem projectRenameToSpl_eq {args : Text} (hargs : args.IsPiece) :
    ∃ command : Text, command.IsStage ∧ projectRenameToSpl args = " | " ++ command := by
  unfold projectRenameToSpl
  split
  · rename_i new old hpair
    obtain ⟨hnew, hold⟩ := projectRenamePair?_subset hpair
    have h := IsStage.append_right (by decide : IsStage "rename ") (hargs.of_subset hold)
    exact ⟨_, (h.append_right (by decide : IsPiece " as ")).append_right (hargs.of_subset hnew), rfl⟩
  · exact ⟨"rename " ++ args, IsStage.append_right (by decide) hargs, rfl⟩

theorem orderToSpl_eq {args : Text} (hargs : args.IsPiece) :
    ∃ command : Text, command.IsStage ∧ orderToSpl args = " | " ++ command := by
  unfold orderToSpl
  split
  · rename_i field hkey
    have hfield := hargs.of_subset (orderKey?_subset hkey)
    exact ⟨"sort -" ++ field, IsStage.append_right (by decide) hfield, rfl⟩
  · rename_i field _ _ hkey
    have hfield := hargs.of_subset (orderKey?_subset hkey)
    exact ⟨"sort +" ++ field, IsStage.append_right (by decide) hfield, rfl⟩
  · exact ⟨"sort " ++ args, IsStage.append_right (by decide) hargs, rfl⟩

/-- **An operator other than `where` becomes one stage**, wherever it stands,
and no note on it is about a `where`. -/
theorem operatorToSpl_piped {stage operator : Text} (hstage : stage.IsPiece)
    (h : KqlOperator.ofVerb operator ≠ .filter) :
    ∃ (command : Text) (notes : List Text), command.IsStage ∧ notes.count lateFilterNote = 0 ∧
      ∀ inline, operatorToSpl stage operator inline = ⟨" | " ++ command, notes⟩ := by
  have hargs := isPiece_stageArguments hstage operator
  have plain : ∀ name : Text, name.IsStage →
      ∃ (command : Text) (notes : List Text), command.IsStage ∧ notes.count lateFilterNote = 0 ∧
        ∀ _ : Bool, Fragment.plain (" | " ++ (name ++ stageArguments stage operator)) =
          ⟨" | " ++ command, notes⟩ :=
    fun name hname => ⟨_, [], hname.append_right hargs, rfl, fun _ => rfl⟩
  unfold operatorToSpl
  cases hop : KqlOperator.ofVerb operator with
  | filter => exact absurd hop h
  | summarize => exact plain "stats " (by decide)
  | extend => exact plain "eval " (by decide)
  | project => exact plain "fields " (by decide)
  | projectAway => exact plain "fields - " (by decide)
  | projectRename =>
    obtain ⟨command, hcommand, heq⟩ := projectRenameToSpl_eq hargs
    exact ⟨command, [], hcommand, rfl, fun _ => congrArg Fragment.plain heq⟩
  | order =>
    obtain ⟨command, hcommand, heq⟩ := orderToSpl_eq hargs
    exact ⟨command, [], hcommand, rfl, fun _ => congrArg Fragment.plain heq⟩
  | take => exact plain "head " (by decide)
  | distinct => exact plain "dedup " (by decide)
  | mvExpand => exact plain "mvexpand " (by decide)
  | parse =>
    exact ⟨"rex " ++ stageArguments stage operator, _, IsStage.append_right (by decide) hargs,
      by decide, fun _ => rfl⟩
  | other =>
    have hmark : IsStage " /* WARNING: Manual translation needed */" := by decide
    refine ⟨stage ++ " /* WARNING: Manual translation needed */",
      ["Unknown KQL operator: " ++ operator], hmark.append_left hstage, ?_, fun _ => ?_⟩
    · rw [List.count_eq_zero]
      exact fun hmem => ne_lateFilterNote (by decide) (List.mem_singleton.mp hmem).symm
    · rw [← List.append_assoc]
      rfl

theorem operatorToSpl_of_ne_filter {stage : Text} (hstage : stage.IsPiece)
    (h : stageVerb stage ≠ "where") (inline : Bool) :
    (operatorToSpl stage (stageVerb stage) inline).text = " | " ++ stageInSpl stage ∧
      (stageInSpl stage).IsStage ∧
      (operatorToSpl stage (stageVerb stage) inline).notes.count lateFilterNote = 0 := by
  obtain ⟨command, notes, hcommand, hnotes, heq⟩ :=
    operatorToSpl_piped hstage fun hop => h ((KqlOperator.ofVerb_eq_filter_iff _).mp hop)
  have hstageInSpl : stageInSpl stage = command := by
    unfold stageInSpl
    rw [heq false]
    rfl
  rw [heq inline, hstageInSpl]
  exact ⟨rfl, hcommand, hnotes⟩

/-! ### The stages -/

/-- The stages, divided into the `where` stages before every other one and
the other stages, each with the `where` stages up to the next. -/
structure IsGrouping (stages leading : List Text) (groups : List (Text × List Text)) : Prop where
  stages_eq : stages = leading ++ groups.flatMap fun group => group.1 :: group.2
  leading_eq : ∀ stage ∈ leading, stageVerb stage = "where"
  command_ne : ∀ group ∈ groups, stageVerb group.1 ≠ "where"
  filters_eq : ∀ group ∈ groups, ∀ stage ∈ group.2, stageVerb stage = "where"

/-- The groups of a list of stages. -/
def filterGroups : List Text → List Text × List (Text × List Text)
  | [] => ([], [])
  | stage :: stages =>
    if stageVerb stage = "where" then (stage :: (filterGroups stages).1, (filterGroups stages).2)
    else ([], (stage, (filterGroups stages).1) :: (filterGroups stages).2)

theorem isGrouping_filterGroups : ∀ stages : List Text,
    IsGrouping stages (filterGroups stages).1 (filterGroups stages).2
  | [] => ⟨rfl, by simp [filterGroups], by simp [filterGroups], by simp [filterGroups]⟩
  | stage :: stages => by
    obtain ⟨heq, hleading, hcommand, hfilters⟩ := isGrouping_filterGroups stages
    unfold filterGroups
    split
    · rename_i hwhere
      refine ⟨?_, ?_, hcommand, hfilters⟩
      · rw [List.cons_append, ← heq]
      · intro s hs
        rcases List.mem_cons.mp hs with rfl | hs
        · exact hwhere
        · exact hleading s hs
    · rename_i hwhere
      refine ⟨?_, by simp, ?_, ?_⟩
      · rw [List.nil_append, List.flatMap_cons, List.cons_append, ← heq]
      · intro group hg
        rcases List.mem_cons.mp hg with rfl | hg
        · exact hwhere
        · exact hcommand group hg
      · intro group hg
        rcases List.mem_cons.mp hg with rfl | hg
        · exact hleading
        · exact hfilters group hg

/-- There are as many groups as stages other than `where`. -/
theorem IsGrouping.countP_eq {stages leading : List Text} {groups : List (Text × List Text)}
    (h : IsGrouping stages leading groups) :
    stages.countP (fun stage => stageVerb stage != "where") = groups.length := by
  have none_of_filters : ∀ filters : List Text, (∀ stage ∈ filters, stageVerb stage = "where") →
      filters.countP (fun stage => stageVerb stage != "where") = 0 := by
    intro filters hf
    rw [List.countP_eq_zero]
    intro stage hs
    simp [hf stage hs]
  obtain ⟨rfl, hleading, hcommand, hfilters⟩ := h
  rw [List.countP_append, none_of_filters leading hleading, Nat.zero_add]
  induction groups with
  | nil => rfl
  | cons group groups ih =>
    have ih := ih (fun g hg => hcommand g (List.mem_cons_of_mem _ hg))
      (fun g hg => hfilters g (List.mem_cons_of_mem _ hg))
    have hone : (stageVerb group.1 != "where") = true := by
      simpa using hcommand group List.mem_cons_self
    rw [List.flatMap_cons, List.countP_append, ih, List.countP_cons, if_pos hone,
      none_of_filters group.2 (hfilters group List.mem_cons_self), List.length_cons]
    omega

theorem isFilterStage_eq (stage : Text) : isFilterStage stage = decide (stageVerb stage = "where") := by
  unfold isFilterStage
  rw [Bool.eq_iff_iff, beq_iff_eq, decide_eq_true_iff]
  exact KqlOperator.ofVerb_eq_filter_iff _

theorem stagesToSpl_cons (inline : Bool) (stage : Text) (stages : List Text) :
    stagesToSpl inline (stage :: stages) =
      operatorToSpl stage (stageVerb stage) inline ++
        stagesToSpl (inline && isFilterStage stage) stages := rfl

/-- `where` stages are appended one after the other. -/
theorem stagesToSpl_filters_text (rest : List Text) (inline : Bool) : ∀ filters : List Text,
    (∀ stage ∈ filters, stageVerb stage = "where") →
    (stagesToSpl inline (filters ++ rest)).text =
      filters.flatMap filterInSpl ++ (stagesToSpl inline rest).text
  | [], _ => rfl
  | stage :: filters, h => by
    have hstage := h stage List.mem_cons_self
    have ih := stagesToSpl_filters_text rest inline filters fun s hs => h s (List.mem_cons_of_mem _ hs)
    have hinline : (inline && isFilterStage stage) = inline := by
      rw [isFilterStage_eq, hstage]
      exact Bool.and_true inline
    rw [List.cons_append, stagesToSpl_cons, hinline, operatorToSpl_of_filter hstage,
      List.flatMap_cons, List.append_assoc, ← ih]
    rfl

/-- **The SPL of the stages**, group by group. -/
theorem stagesToSpl_groups_text : ∀ (groups : List (Text × List Text)) (inline : Bool),
    (∀ group ∈ groups, group.1.IsPiece ∧ stageVerb group.1 ≠ "where" ∧
      ∀ stage ∈ group.2, stageVerb stage = "where") →
    (stagesToSpl inline (groups.flatMap fun group => group.1 :: group.2)).text =
      (groups.map fun group => stageInSpl group.1 ++ group.2.flatMap filterInSpl).flatMap
        fun y => .char ' ' :: pipe :: .char ' ' :: y
  | [], _, _ => rfl
  | (stage, filters) :: groups, inline, h => by
    obtain ⟨hpiece, hcommand, hfilters⟩ := h (stage, filters) List.mem_cons_self
    have ih := stagesToSpl_groups_text groups false fun group hg => h group (List.mem_cons_of_mem _ hg)
    have hinline : (inline && isFilterStage stage) = false := by
      rw [isFilterStage_eq, decide_eq_false hcommand, Bool.and_false]
    obtain ⟨htext, -, -⟩ := operatorToSpl_of_ne_filter hpiece hcommand inline
    calc (stagesToSpl inline
          (((stage, filters) :: groups).flatMap fun group => group.1 :: group.2)).text
        = (operatorToSpl stage (stageVerb stage) inline).text ++
            (stagesToSpl (inline && isFilterStage stage)
              (filters ++ groups.flatMap fun group => group.1 :: group.2)).text := rfl
      _ = " | " ++ stageInSpl stage ++ (filters.flatMap filterInSpl ++
            (groups.map fun group => stageInSpl group.1 ++ group.2.flatMap filterInSpl).flatMap
              fun y => .char ' ' :: pipe :: .char ' ' :: y) := by
          rw [htext, hinline, stagesToSpl_filters_text _ _ _ hfilters, ih]
      _ = _ := by
          rw [List.map_cons, List.flatMap_cons, ← List.append_assoc]
          rfl

/-- **There is one note for each `where` after another operator.** -/
theorem count_lateFilterNote_stagesToSpl : ∀ (stages : List Text) (inline : Bool),
    (∀ stage ∈ stages, stage.IsPiece) →
    (stagesToSpl inline stages).notes.count lateFilterNote =
      if inline then
        (stages.dropWhile fun stage => stageVerb stage == "where").countP
          fun stage => stageVerb stage == "where"
      else stages.countP fun stage => stageVerb stage == "where"
  | [], inline, _ => by cases inline <;> rfl
  | stage :: stages, inline, h => by
    have ih := fun inline => count_lateFilterNote_stagesToSpl stages inline fun s hs =>
      h s (List.mem_cons_of_mem _ hs)
    have hcount : (stagesToSpl inline (stage :: stages)).notes.count lateFilterNote =
        (operatorToSpl stage (stageVerb stage) inline).notes.count lateFilterNote +
          (stagesToSpl (inline && isFilterStage stage) stages).notes.count lateFilterNote :=
      List.count_append
    rw [hcount, isFilterStage_eq, ih]
    by_cases hwhere : stageVerb stage = "where"
    · rw [operatorToSpl_of_filter hwhere]
      cases inline with
      | true => simp [hwhere]
      | false => simp [hwhere]; omega
    · obtain ⟨-, -, hnotes⟩ := operatorToSpl_of_ne_filter (h stage List.mem_cons_self) hwhere inline
      rw [hnotes]
      cases inline <;> simp [hwhere]

theorem queryToSpl_of_tableToSpl {m : TableMapping} {query : Text} {search : Fragment}
    (h : tableToSpl m (Pipeline.ofQuery query).head = .ok search) :
    queryToSpl m query = .ok (search ++ stagesToSpl true (Pipeline.ofQuery query).stages) := by
  unfold queryToSpl
  simp only [h]
  rfl

/-- What a converted KQL query is made of: the search for the place of the
table, and the stages. -/
theorem exists_place_of_queryToSpl {m : TableMapping} {query : Text} {spl : Fragment}
    (h : queryToSpl m query = .ok spl) :
    ∃ entry usedDefault,
      m.resolve (Pipeline.ofQuery query).head = .ok (entry, usedDefault) ∧
      spl.text = entry.search ++ (stagesToSpl true (Pipeline.ofQuery query).stages).text ∧
      spl.notes = entry.placeNote (Pipeline.ofQuery query).head ::
        (if usedDefault then [unknownTableNote (Pipeline.ofQuery query).head] else []) ++
          (stagesToSpl true (Pipeline.ofQuery query).stages).notes := by
  simp only [queryToSpl, tableToSpl] at h
  cases hresolve : m.resolve (Pipeline.ofQuery query).head with
  | error fault =>
    rw [hresolve] at h
    cases h
  | ok place =>
    rw [hresolve] at h
    obtain rfl := Except.ok.inj h
    exact ⟨place.1, place.2, rfl, rfl, rfl⟩

section

variable {stages leading : List Text} {groups : List (Text × List Text)}
  (h : IsGrouping stages leading groups) (hstages : ∀ stage ∈ stages, stage.IsPiece)

include h hstages

theorem IsGrouping.isPiece_leading : ∀ stage ∈ leading, stage.IsPiece := by
  intro stage hs
  refine hstages stage ?_
  rw [h.stages_eq]
  exact List.mem_append_left _ hs

theorem IsGrouping.isPiece_group : ∀ group ∈ groups, ∀ stage ∈ group.1 :: group.2, stage.IsPiece := by
  intro group hg stage hs
  refine hstages stage ?_
  rw [h.stages_eq]
  exact List.mem_append_right _ (List.mem_flatMap.mpr ⟨group, hg, hs⟩)

/-- The SPL of grouped stages: the leading predicates, then one command for
each group. -/
theorem IsGrouping.stagesToSpl_text (inline : Bool) :
    (stagesToSpl inline stages).text =
      leading.flatMap filterInSpl ++
        (groups.map fun group => stageInSpl group.1 ++ group.2.flatMap filterInSpl).flatMap
          fun y => .char ' ' :: pipe :: .char ' ' :: y := by
  have hgroups := stagesToSpl_groups_text groups inline fun group hg =>
    ⟨h.isPiece_group hstages group hg group.1 List.mem_cons_self, h.command_ne group hg,
      h.filters_eq group hg⟩
  rw [h.stages_eq, stagesToSpl_filters_text _ _ _ h.leading_eq, hgroups]

theorem IsGrouping.isPiece_leadingPredicates : IsPiece (leading.flatMap filterInSpl) :=
  isPiece_flatMap fun stage hs => isPiece_filterInSpl (h.isPiece_leading hstages stage hs)

/-- A command with the predicates after it is one stage. -/
theorem IsGrouping.isStage_command : ∀ y ∈ groups.map fun group =>
    stageInSpl group.1 ++ group.2.flatMap filterInSpl, y.IsStage := by
  intro y hy
  obtain ⟨group, hg, rfl⟩ := List.mem_map.mp hy
  have hpiece := h.isPiece_group hstages group hg
  obtain ⟨-, hcommand, -⟩ :=
    operatorToSpl_of_ne_filter (hpiece group.1 List.mem_cons_self) (h.command_ne group hg) true
  exact hcommand.append_right (isPiece_flatMap fun stage hs =>
    isPiece_filterInSpl (hpiece stage (List.mem_cons_of_mem _ hs)))

/-- What is read back from a search with the SPL of grouped stages after it. -/
theorem IsGrouping.toList_ofQuery {search : Text} (hsearch : search.IsPiece) (inline : Bool) :
    (Pipeline.ofQuery (search ++ (stagesToSpl inline stages).text)).toList =
      strip (search ++ leading.flatMap filterInSpl) ::
        groups.map (fun group => strip (stageInSpl group.1 ++ group.2.flatMap filterInSpl)) := by
  have hread := Pipeline.ofQuery_of_isStage (b := ' ') rfl
    (hsearch.append (h.isPiece_leadingPredicates hstages)) (h.isStage_command hstages)
  rw [h.stagesToSpl_text hstages, ← List.append_assoc, hread, List.map_map]
  rfl

end

/-- **A converted KQL query has one stage for the search and one for each
operator other than `where`.** Each holds the predicates of the `where` stages
that follow it, and each predicate that does not filter the search is noted. -/
theorem toList_ofQuery_queryToSpl (m : TableMapping) (hm : m.HasTextKeys) (query : Text)
    (hentry : ∀ entry usedDefault,
      m.resolve (Pipeline.ofQuery query).head = .ok (entry, usedDefault) → entry.IsPlain) :
    ∃ search spl leading groups,
      tableToSpl m (Pipeline.ofQuery query).head = .ok search ∧
      queryToSpl m query = .ok spl ∧
      IsGrouping (Pipeline.ofQuery query).stages leading groups ∧
      (Pipeline.ofQuery spl.text).toList =
        strip (search.text ++ leading.flatMap filterInSpl) ::
          groups.map (fun group => strip (stageInSpl group.1 ++ group.2.flatMap filterInSpl)) ∧
      (Pipeline.ofQuery spl.text).toList.length =
        1 + (Pipeline.ofQuery query).stages.countP (fun stage => stageVerb stage != "where") ∧
      spl.notes.count lateFilterNote =
        ((Pipeline.ofQuery query).stages.dropWhile fun stage => stageVerb stage == "where").countP
          fun stage => stageVerb stage == "where" := by
  have hcanonical := Pipeline.isCanonical_ofQuery query
  obtain ⟨entry, usedDefault, hresolve⟩ := TableMapping.resolve_eq_ok hm (Pipeline.ofQuery query).head
  obtain ⟨search, hsearch, htext, hnotes⟩ := tableToSpl_of_resolve hresolve
  have hquery := queryToSpl_of_tableToSpl hsearch
  have hpiece : search.text.IsPiece := htext ▸ (hentry entry usedDefault hresolve).isPiece_search
  generalize Pipeline.ofQuery query = p at *
  have hgrouping := isGrouping_filterGroups p.stages
  have hread := hgrouping.toList_ofQuery hcanonical.isPiece_stage hpiece true
  refine ⟨search, _, _, _, hsearch, hquery, hgrouping, hread, ?_, ?_⟩
  · refine (congrArg List.length hread).trans ?_
    rw [hgrouping.countP_eq, List.length_cons, List.length_map, Nat.add_comm]
  · have hlate := count_lateFilterNote_stagesToSpl p.stages true hcanonical.isPiece_stage
    have hcount : (search ++ stagesToSpl true p.stages).notes.count lateFilterNote =
        search.notes.count lateFilterNote + (stagesToSpl true p.stages).notes.count lateFilterNote :=
      List.count_append
    rw [hcount, hnotes, hlate, if_pos rfl, Nat.zero_add]

/-- Two `where` stages around an operator, before another one. -/
theorem toList_ofQuery_queryToSpl_between :
    TableMapping.defaults.HasTextKeys ∧
      ∃ spl, queryToSpl .defaults "SecurityEvent | where a == 1\n| summarize n | where b | limit 5" =
          .ok spl ∧
        (Pipeline.ofQuery spl.text).toList.length = 3 ∧ spl.notes.count lateFilterNote = 1 := by
  refine ⟨hasTextKeys_defaults, ?_⟩
  obtain ⟨-, spl, -, -, -, hspl, -, -, hlength, hnotes⟩ :=
    toList_ofQuery_queryToSpl .defaults hasTextKeys_defaults
      "SecurityEvent | where a == 1\n| summarize n | where b | limit 5" (by
        intro entry usedDefault h
        have hplace : TableMapping.defaults.resolve
            (Pipeline.ofQuery "SecurityEvent | where a == 1\n| summarize n | where b | limit 5").head =
              .ok (⟨"windows", some "WinEventLog:Security", "Common for Windows Security events"⟩,
                false) := rfl
        rw [hplace] at h
        cases h
        refine ⟨by decide, ?_⟩
        rintro _ ⟨⟩
        decide)
  exact ⟨spl, hspl, hlength.trans (by decide), hnotes.trans (by decide)⟩

end TwinQuery
