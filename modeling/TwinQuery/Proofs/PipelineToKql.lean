/-
# The pipeline of a converted search

A search that is converted to KQL keeps its pipeline. Read as a query, the
result has the table as its head, then a `where` stage when the head of the
search gave predicates, and then one stage for each stage of the search, in
order (`toList_ofQuery_queryToKql`).

No rule can make or lose a stage, because what it writes holds no pipe and no
line break, and is never blank: the characters that it takes from the search
come from one stage, and so hold neither, and what it adds are a few fixed
words (`isStage_commandToKql`).

Key definitions: `VerbTable.HasPlainEquivalents`, `SearchHead.filterStages`,
`stageInKql`.
Key theorems: `SearchHead.toKql_text`, `isStage_commandToKql`,
`queryToKql_text`, `toList_ofQuery_queryToKql`.
-/
import TwinQuery.Conversion.ToKql
import TwinQuery.Proofs.Extraction
import TwinQuery.Proofs.Pipeline
import TwinQuery.Vocabulary.Bundled

namespace TwinQuery

open Text

/-! ### The head -/

namespace SearchHead

/-- The stage that applies the predicates of a head, when it has any. -/
def filterStages (h : SearchHead) : List Text :=
  if h.predicates = [] then [] else ["where " ++ joinWith " and " h.predicates]

theorem isPiece_table {head : Text} (hhead : head.IsPiece) : (ofText head).table.IsPiece := by
  unfold table ofText
  cases h : fieldValue "index=" head with
  | none => exact (by decide : placeholderTable.IsPiece)
  | some index =>
    have hindex := hhead.of_subset (fieldValue_subset h)
    exact hindex.of_subset List.filter_sublist.subset

theorem ink_table (head : Text) : ∀ c ∈ (ofText head).table, isInk c := by
  unfold table ofText
  cases h : fieldValue "index=" head with
  | none => exact List.all_eq_true.mp (by decide : placeholderTable.all isInk)
  | some index => exact fun c hc => fieldValue_ink h c (List.filter_sublist.subset hc)

theorem strip_table (head : Text) : strip (ofText head).table = (ofText head).table :=
  strip_of_ink (ink_table head)

/-- A predicate is written around a part of the head: it holds no pipe and no
line break, and it ends in a quote or a parenthesis. -/
theorem predicate_spec {head : Text} (hhead : head.IsPiece) {p : Text}
    (hp : p ∈ (ofText head).predicates) : p.IsStage ∧ stripEnd p = p := by
  have wrapped : ∀ (opening value : Text) (c : CodePoint),
      opening.IsStage → value ⊆ head → isInk c →
      c ≠ pipe → (opening ++ value ++ [c]).IsStage ∧
        stripEnd (opening ++ value ++ [c]) = opening ++ value ++ [c] := by
    intro opening value c hopening hvalue hc hne
    have hlast : IsPiece [c] := by
      intro d hd
      rw [List.mem_singleton.mp hd]
      exact ⟨hne, isLineBreak_of_isInk hc⟩
    exact ⟨(hopening.append_right (hhead.of_subset hvalue)).append_right hlast,
      stripEnd_append_ink hc [] _⟩
  simp only [predicates, List.mem_append, Option.mem_toList, Option.map_eq_some_iff,
    List.mem_map] at hp
  rcases hp with ((⟨v, hv, rfl⟩ | ⟨v, hv, rfl⟩) | ⟨v, hv, rfl⟩) | ⟨v, hv, rfl⟩
  · refine wrapped "TimeGenerated >= ago(" _ ')' (by decide) ?_ rfl (by decide)
    exact List.Subset.trans (List.erase_subset) (List.Subset.trans (unquote_subset v)
      (earliestFrom_subset hv))
  · refine wrapped "SourceType == \"" _ '"' (by decide) ?_ rfl (by decide)
    exact List.Subset.trans (unquote_subset v) (fieldValue_subset hv)
  · refine wrapped "Source == \"" _ '"' (by decide) ?_ rfl (by decide)
    exact List.Subset.trans (unquote_subset v) (fieldValue_subset hv)
  · refine wrapped "* contains \"" _ '"' (by decide) ?_ rfl (by decide)
    exact List.Subset.trans (unquote_subset v) (subset_of_mem_terms hv)

theorem filterStage_spec {head : Text} (hhead : head.IsPiece) {stage : Text}
    (hstage : stage ∈ (ofText head).filterStages) : stage.IsStage ∧ strip stage = stage := by
  unfold filterStages at hstage
  split at hstage
  · cases hstage
  · rename_i hne
    rw [List.mem_singleton.mp hstage]
    have hspec : ∀ p ∈ (ofText head).predicates, p.IsStage ∧ stripEnd p = p :=
      fun _ hp => predicate_spec hhead hp
    have hpieces := isPiece_joinWith (by decide : IsPiece " and ") fun p hp => (hspec p hp).1.1
    obtain ⟨hink, hend⟩ := stripEnd_joinWith " and " hne fun p hp => ⟨(hspec p hp).1.2, (hspec p hp).2⟩
    have hstrip := strip_append_append (by decide : strip "where " ≠ []) hink []
    rw [List.nil_append, List.nil_append, hend] at hstrip
    exact ⟨IsStage.append_right (by decide) hpieces, hstrip⟩

theorem toKql_text (h : SearchHead) :
    h.toKql.text =
      h.table ++ h.filterStages.flatMap fun y => .char '\n' :: pipe :: .char ' ' :: y := by
  unfold toKql filterStages
  cases h.predicates with
  | nil => rfl
  | cons p ps =>
    rw [if_neg (List.cons_ne_nil p ps), List.flatMap_singleton]
    rfl

end SearchHead

/-! ### The commands -/

theorem dropBraces_subset (t : Text) : dropBraces t ⊆ t := by
  fun_induction dropBraces t with
  | case1 rest ih => exact List.subset_cons_of_subset _ (List.subset_cons_of_subset _ ih)
  | case2 c rest _ ih => exact List.cons_subset_cons c ih
  | case3 => exact List.Subset.refl _

theorem isStage_fieldsToKql {args : Text} (hargs : args.IsPiece) : (fieldsToKql args).IsStage := by
  unfold fieldsToKql
  split
  · rename_i names
    have hnames := hargs.of_subset (List.subset_cons_of_subset (.char '+') (strip_subset names))
    exact IsStage.append_right (by decide) hnames
  · rename_i names
    have hnames := hargs.of_subset (List.subset_cons_of_subset (.char '-') (strip_subset names))
    exact IsStage.append_right (by decide) hnames
  · exact IsStage.append_right (by decide) hargs

theorem isStage_sortToKql {args : Text} (hargs : args.IsPiece) : (sortToKql args).IsStage := by
  unfold sortToKql
  split
  · rename_i field direction hkey
    have hfield := hargs.of_subset (sortKey?_subset hkey)
    have hname : direction.name.IsPiece := by cases direction <;> decide
    have h := IsStage.append_right (by decide : IsStage "order by ") hfield
    exact (h.append_right (by decide)).append_right hname
  · exact IsStage.append_right (by decide) hargs

theorem isStage_renameToKql {args : Text} (hargs : args.IsPiece) : (renameToKql args).IsStage := by
  unfold renameToKql
  split
  · rename_i old new hpair
    obtain ⟨hold, hnew⟩ := renamePair?_subset hpair
    have h := IsStage.append_right (by decide : IsStage "project-rename ") (hargs.of_subset hnew)
    exact (h.append_right (by decide)).append_right (hargs.of_subset hold)
  · exact IsStage.append_right (by decide) hargs

theorem isStage_spathToKql {args : Text} (hargs : args.IsPiece) :
    (spathToKql args).text.IsStage := by
  unfold spathToKql
  split
  · rename_i options hoptions
    obtain ⟨hpath, houtput, hinput⟩ := SpathOptions.subset_of_ofText? hoptions
    have hfrom : (options.input.getD spathDefaultInput).IsPiece := by
      cases h : options.input with
      | none => exact (by decide : spathDefaultInput.IsPiece)
      | some input => exact hargs.of_subset (hinput input h)
    have hto := hargs.of_subset (List.Subset.trans (dropBraces_subset options.path) hpath)
    have h := IsStage.append_right (by decide : IsStage "extend ") (hargs.of_subset houtput)
    have h := (h.append_right (by decide : IsPiece " = tostring(")).append_right hfrom
    have h := (h.append_right (by decide : IsPiece ".")).append_right hto
    exact h.append_right (by decide)
  · have h := IsStage.append_right (by decide : IsStage "extend /* spath ") hargs
    exact h.append_right (by decide)

theorem isStage_timechartToKql {args : Text} (hargs : args.IsPiece) :
    (timechartToKql args).IsStage := by
  have hblank : IsPiece (' ' :: args) := IsPiece.append (s := [.char ' ']) (by decide) hargs
  unfold timechartToKql
  split
  rename_i span rest hspan
  obtain ⟨hspan, hrest⟩ := takeSpan_subset hspan
  have hrest := hblank.of_subset hrest
  have hwidth : (span.getD timechartDefaultSpan).IsPiece := by
    cases h : span with
    | none => exact (by decide : timechartDefaultSpan.IsPiece)
    | some v => exact hargs.of_subset (hspan v h)
  have hbucket : IsPiece ("bin(TimeGenerated, " ++ span.getD timechartDefaultSpan ++ ")") :=
    ((by decide : IsPiece "bin(TimeGenerated, ").append hwidth).append (by decide)
  have hby : IsPiece (' ' :: rest) := IsPiece.append (s := [.char ' ']) (by decide) hrest
  dsimp only
  split
  · rename_i aggregations c fields hclause
    obtain ⟨haggs, hfields⟩ := splitByClause_subset hclause
    have h := IsStage.append_right (by decide : IsStage "summarize ") (hby.of_subset haggs)
    have h := (h.append_right (by decide : IsPiece " by ")).append_right hbucket
    exact (h.append_right (by decide)).append_right (hby.of_subset (hfields _ rfl))
  · have h := IsStage.append_right (by decide : IsStage "summarize ") hrest
    exact (h.append_right (by decide)).append_right hbucket

/-- **A command becomes one stage.** -/
theorem isStage_commandToKql {stage : Text} (hstage : stage.IsPiece) (verb : Text) {equivalent : Doc}
    (hequivalent : equivalent.display.IsPiece) :
    (commandToKql stage verb equivalent).text.IsStage := by
  have hargs := isPiece_stageArguments hstage verb
  unfold commandToKql
  cases SplCommand.ofVerb verb with
  | stats => exact IsStage.append_right (by decide) hargs
  | eval => exact IsStage.append_right (by decide) hargs
  | filter => exact IsStage.append_right (by decide) hargs
  | fields => exact isStage_fieldsToKql hargs
  | table => exact IsStage.append_right (by decide) hargs
  | sort => exact isStage_sortToKql hargs
  | head => exact IsStage.append_right (by decide) hargs
  | dedup => exact IsStage.append_right (by decide) hargs
  | rename => exact isStage_renameToKql hargs
  | mvexpand => exact IsStage.append_right (by decide) hargs
  | spath => exact isStage_spathToKql hargs
  | rex =>
    have h := IsStage.append_right (by decide : IsStage "parse /* ") hargs
    exact h.append_right (by decide)
  | timechart => exact isStage_timechartToKql hargs
  | other =>
    have h := IsStage.append_left hequivalent (by decide : IsStage " /* ")
    exact (h.append_right hstage).append_right (by decide)

/-! ### The query -/

/-- The equivalents of all verbs are texts without pipes and line breaks. -/
def VerbTable.HasPlainEquivalents (table : VerbTable) : Prop :=
  ∀ row ∈ table, ∃ t : Text, row.2.equivalent = .text t ∧ t.IsPiece

theorem VerbTable.HasPlainEquivalents.of_find? {table : VerbTable} (h : table.HasPlainEquivalents)
    {name : Text} {verb : Verb} (hfind : table.find? name = some verb) :
    verb.equivalent.display.IsPiece := by
  obtain ⟨a, b, rfl, -⟩ := List.lookup_eq_some_iff.mp hfind
  obtain ⟨t, ht, hpiece⟩ := h (name, verb) (by simp)
  rw [ht]
  exact hpiece

theorem hasPlainEquivalents_bundledSpl : bundledSpl.HasPlainEquivalents := by
  have hrows : ∀ row ∈ splRows, IsPiece row.2.1 := by decide
  intro row hrow
  obtain ⟨⟨name, equivalent, description⟩, hmem, rfl⟩ := List.mem_map.mp hrow
  exact ⟨equivalent, rfl, hrows _ hmem⟩

/-- The stage that a stage of a search becomes. -/
def stageInKql (commands : VerbTable) (stage : Text) : Text :=
  match commands.find? (stageVerb stage) with
  | some entry => strip (commandToKql stage (stageVerb stage) entry.equivalent).text
  | none => stage ++ " // WARNING: Unknown SPL command"

theorem stageToKql_of_some {commands : VerbTable} {stage : Text} {entry : Verb}
    (h : commands.find? (stageVerb stage) = some entry) :
    stageToKql commands stage = commandToKql stage (stageVerb stage) entry.equivalent := by
  simp only [stageToKql, h]

theorem stageToKql_of_none {commands : VerbTable} {stage : Text}
    (h : commands.find? (stageVerb stage) = none) :
    stageToKql commands stage = unknownToKql stage (stageVerb stage) := by
  simp only [stageToKql, h]

theorem stageToKql_spec {commands : VerbTable} (hcommands : commands.HasPlainEquivalents)
    {stage : Text} (hpiece : stage.IsPiece) (hstrip : strip stage = stage) (hne : stage ≠ []) :
    (stageToKql commands stage).text.IsStage ∧
      strip (stageToKql commands stage).text = stageInKql commands stage := by
  unfold stageInKql
  cases hfind : commands.find? (stageVerb stage) with
  | some entry =>
    rw [stageToKql_of_some hfind]
    exact ⟨isStage_commandToKql hpiece _ (hcommands.of_find? hfind), rfl⟩
  | none =>
    have hstage : stage.IsStage := ⟨hpiece, by rwa [hstrip]⟩
    have hmark : strip " // WARNING: Unknown SPL command" ≠ [] := by decide
    have h := strip_append_append hstage.2 hmark []
    rw [stripStart_of_stripped hstrip] at h
    rw [stageToKql_of_none hfind]
    exact ⟨hstage.append_right (by decide), h⟩

theorem Fragment.concat_text : ∀ fragments : List Fragment,
    (Fragment.concat fragments).text = fragments.flatMap Fragment.text
  | [] => rfl
  | fragment :: fragments => by
    have ih := Fragment.concat_text fragments
    rw [List.flatMap_cons, ← ih]
    rfl

/-- The KQL of a search: the table, then every stage on a line of its own. -/
theorem queryToKql_text (commands : VerbTable) (query : Text) :
    (queryToKql commands query).text =
      (SearchHead.ofText (Pipeline.ofQuery query).head).table ++
        ((SearchHead.ofText (Pipeline.ofQuery query).head).filterStages ++
          (Pipeline.ofQuery query).stages.map fun stage => (stageToKql commands stage).text).flatMap
            fun y => .char '\n' :: pipe :: .char ' ' :: y := by
  have hlines : ∀ stages : List Text,
      (Fragment.concat (stages.map (stageLineToKql commands))).text =
        (stages.map fun stage => (stageToKql commands stage).text).flatMap
          fun y => .char '\n' :: pipe :: .char ' ' :: y := by
    intro stages
    rw [Fragment.concat_text, List.flatMap_map, List.flatMap_map]
    rfl
  calc (queryToKql commands query).text
      = (SearchHead.ofText (Pipeline.ofQuery query).head).toKql.text ++
          (Fragment.concat ((Pipeline.ofQuery query).stages.map (stageLineToKql commands))).text := rfl
    _ = _ := by
      rw [SearchHead.toKql_text, hlines, List.flatMap_append, List.append_assoc]

/-- **A converted search keeps its pipeline.** The stages of the KQL query
are the table, the `where` stage of the head when there are predicates, and
one stage for each stage of the search, in order. -/
theorem toList_ofQuery_queryToKql (commands : VerbTable)
    (hcommands : commands.HasPlainEquivalents) (query : Text) :
    (Pipeline.ofQuery (queryToKql commands query).text).toList =
      (SearchHead.ofText (Pipeline.ofQuery query).head).table ::
        ((SearchHead.ofText (Pipeline.ofQuery query).head).filterStages ++
          (Pipeline.ofQuery query).stages.map (stageInKql commands)) := by
  have hcanonical := Pipeline.isCanonical_ofQuery query
  rw [queryToKql_text]
  generalize Pipeline.ofQuery query = p at hcanonical ⊢
  have hfilter : ∀ stage ∈ (SearchHead.ofText p.head).filterStages,
      stage.IsStage ∧ strip stage = stage :=
    fun _ hs => SearchHead.filterStage_spec hcanonical.isPiece_head hs
  have hstage : ∀ stage ∈ p.stages, (stageToKql commands stage).text.IsStage ∧
      strip (stageToKql commands stage).text = stageInKql commands stage :=
    fun stage hs => stageToKql_spec hcommands (hcanonical.isPiece_stage stage hs)
      (hcanonical.strip_stage stage hs) (hcanonical.stage_ne_nil stage hs)
  rw [Pipeline.ofQuery_of_isStage (b := '\n') rfl (SearchHead.isPiece_table hcanonical.isPiece_head)]
  · rw [SearchHead.strip_table, List.map_append, List.map_map]
    have h₁ : (SearchHead.ofText p.head).filterStages.map strip =
        (SearchHead.ofText p.head).filterStages :=
      (List.map_congr_left fun stage hs => (hfilter stage hs).2).trans (List.map_id _)
    have h₂ : p.stages.map (strip ∘ fun stage => (stageToKql commands stage).text) =
        p.stages.map (stageInKql commands) :=
      List.map_congr_left fun stage hs => (hstage stage hs).2
    rw [h₁, h₂]
    rfl
  · intro y hy
    rcases List.mem_append.mp hy with hy | hy
    · exact (hfilter y hy).1
    · obtain ⟨stage, hs, rfl⟩ := List.mem_map.mp hy
      exact (hstage stage hs).1

/-- A wildcard index, a command without arguments and one that is not known. -/
theorem toList_ofQuery_queryToKql_wildcard :
    bundledSpl.HasPlainEquivalents ∧
      (Pipeline.ofQuery (queryToKql bundledSpl
        "index=* earliest=-1h\n| stats || sort - | frob x").text).toList =
        ([[], "where TimeGenerated >= ago(1h)", "summarize", "order by - asc",
          "frob x // WARNING: Unknown SPL command"] : List Text) := by
  refine ⟨hasPlainEquivalents_bundledSpl, ?_⟩
  rw [toList_ofQuery_queryToKql bundledSpl hasPlainEquivalents_bundledSpl]
  decide

end TwinQuery
