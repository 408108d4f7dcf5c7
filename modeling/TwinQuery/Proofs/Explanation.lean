/-
# What an explanation says

An explanation is a title and one numbered line for each element of the
pipeline. That its lines can be counted rests on every one of them being a
single line: the sentence on the head is written around parts of the head
(`isPiece_describeSplHead`), a stage is a stripped piece of the query, and the
bundled descriptions hold no line break. Texts that are single lines, each
ended by a line feed, are the lines of what they make up
(`Text.lines_flatMap_feed`).

The line of a stage is the stage itself, after a fixed word, exactly when the
vocabulary does not know its verb (`explainStage_eq_lead_iff`); no bundled
description begins with that word. The conversion and the validation go by
the same question. A converted search has one line for each stage, and the
stage stands on it unconverted, with a warning behind it, exactly when its
verb is unknown (`stageToKql_text_eq_iff`): a rule writes an operator first,
which only for `where` is the verb that the stage had, and there the warning
is missing.

Key definitions: `Text.IsNumberedList`, `IsDescription`.
Key theorems: `Text.lines_flatMap_feed`, `isNumberedList_numberedList`,
`explainStage_eq_lead_iff`, `stageToKql_text_eq_iff`,
`getElem?_lines_queryToKql`, `explanation_agrees`.
-/
import TwinQuery.Explanation
import TwinQuery.Proofs.UnknownOperators

namespace TwinQuery

namespace Text

/-! ### Lines that are written one after another -/

theorem lines_append_feed {l : Text} (hl : OneLine l) (r : Text) :
    lines (l ++ .char '\n' :: r) = l :: lines r := by
  have hfeed : lines ('\n' :: r) = [] :: lines r := rfl
  have h := lines_append hl hfeed
  rwa [List.append_nil] at h

/-- **Lines that are ended by line feeds are read back.** -/
theorem lines_flatMap_feed : ∀ {ts : List Text}, (∀ t ∈ ts, OneLine t) →
    lines (ts.flatMap fun t => t ++ [.char '\n']) = ts
  | [], _ => rfl
  | t :: ts, h => by
    obtain ⟨ht, hts⟩ := List.forall_mem_cons.mp h
    have ih := lines_flatMap_feed hts
    rw [List.flatMap_cons, List.append_assoc, List.singleton_append, lines_append_feed ht, ih]

/-- Lines after a text, each after a line feed. Only an empty text without
lines after it has no line at all. -/
theorem lines_append_flatMap : ∀ {ys : List Text} {x : Text}, OneLine x →
    (∀ y ∈ ys, OneLine y ∧ y ≠ []) → x ≠ [] ∨ ys ≠ [] →
    lines (x ++ ys.flatMap fun y => .char '\n' :: y) = x :: ys
  | [], x, hx, _, hne => by
    obtain ⟨c, x, rfl⟩ := List.exists_cons_of_ne_nil (hne.resolve_right fun h => h rfl)
    rw [List.flatMap_nil, List.append_nil]
    exact lines_of_oneLine hx
  | y :: ys, x, hx, hys, _ => by
    obtain ⟨hy, hys⟩ := List.forall_mem_cons.mp hys
    have ih := lines_append_flatMap hy.1 hys (Or.inl hy.2)
    rw [List.flatMap_cons, List.cons_append, lines_append_feed hx, ih]

theorem joinWith_append_separator (s : Text) : ∀ (t : Text) (ts : List Text),
    joinWith s (t :: ts) ++ s = (t :: ts).flatMap fun t => t ++ s
  | t, [] => by simp [joinWith]
  | t, u :: ts => by
    have ih := joinWith_append_separator s u ts
    rw [joinWith, List.append_assoc, ih]
    rfl

/-! ### Numbered lists -/

/-- The text is a title and the given lines, numbered from one on, and ends
with a line feed. -/
structure IsNumberedList (title : Text) (contents : List Text) (t : Text) : Prop where
  lines_eq : lines t = title :: contents.mapIdx fun k content => ofNat (k + 1) ++ ". " ++ content
  ends_with_feed : ∃ body : Text, t = body ++ [.char '\n']

theorem isPiece_ofNat (n : Nat) : (ofNat n).IsPiece := by
  intro c hc
  have hrange := CodePoint.toNat_of_isDigit (isDigit_of_mem_ofNat hc)
  constructor
  · rintro rfl
    exact absurd hrange (by decide)
  · have hcases : ∀ n : Nat, 48 ≤ n ∧ n ≤ 57 → inRanges lineBreakRanges n = false := by
      intro n hn
      simp [inRanges, lineBreakRanges]
      omega
    exact hcases c.toNat hrange

end Text

open Text

theorem numberLines_eq_mapIdx : ∀ (contents : List Text) (n : Nat),
    numberLines n contents = contents.mapIdx fun k content => ofNat (n + k) ++ ". " ++ content
  | [], _ => rfl
  | content :: contents, n => by
    have ih := numberLines_eq_mapIdx contents (n + 1)
    have hshift : (fun k content => ofNat (n + 1 + k) ++ ". " ++ content) =
        fun k (content : Text) => ofNat (n + (k + 1)) ++ ". " ++ content := by
      funext k content
      rw [Nat.add_assoc, Nat.add_comm 1 k]
    rw [numberLines, ih, List.mapIdx_cons, hshift, Nat.add_zero]

/-- **A title and pieces make a numbered list.** -/
theorem isNumberedList_numberedList {title : Text} {contents : List Text} (htitle : title.IsPiece)
    (hcontents : ∀ content ∈ contents, content.IsPiece) :
    IsNumberedList title contents (numberedList title contents) := by
  have hnumbered : numberLines 1 contents =
      contents.mapIdx fun k content => ofNat (k + 1) ++ ". " ++ content := by
    simp only [numberLines_eq_mapIdx, Nat.add_comm 1]
  have hlines : ∀ line ∈ title :: numberLines 1 contents, OneLine line := by
    intro line hline
    rcases List.mem_cons.mp hline with rfl | hline
    · exact htitle.oneLine
    · rw [hnumbered, List.mem_mapIdx] at hline
      obtain ⟨k, hk, rfl⟩ := hline
      have hnumber := (isPiece_ofNat (k + 1)).append (by decide : IsPiece ". ")
      exact (hnumber.append (hcontents _ (List.getElem_mem hk))).oneLine
  refine ⟨?_, _, rfl⟩
  have hfeeds : numberedList title contents =
      (title :: numberLines 1 contents).flatMap fun line => line ++ [.char '\n'] :=
    joinWith_append_separator [.char '\n'] title (numberLines 1 contents)
  rw [hfeeds, lines_flatMap_feed hlines, hnumbered]

/-! ### The lines of an explanation -/

theorem isPiece_describeSplHead {head : Text} (hhead : head.IsPiece) :
    (describeSplHead head).IsPiece := by
  have hwords : (freeText head).IsPiece := hhead.of_subset (freeText_subset head)
  have hquote : IsPiece "\"" := by decide
  unfold describeSplHead
  cases hindex : fieldValue "index=" head with
  | none =>
    cases hfree : freeText head with
    | nil => exact (by decide : IsPiece "Starts from the results of a generating command")
    | cons c words =>
      rw [hfree] at hwords
      have hlead : IsPiece "Searches all indexes for events containing: \"" := by decide
      exact (hlead.append hwords).append hquote
  | some index =>
    have hplace := (by decide : IsPiece "Searches in the \"").append
      (hhead.of_subset (fieldValue_subset hindex))
    cases hfree : freeText head with
    | nil => exact hplace.append (by decide : IsPiece "\" index")
    | cons c words =>
      rw [hfree] at hwords
      have hlead := hplace.append (by decide : IsPiece "\" index for events containing: \"")
      exact (hlead.append hwords).append hquote

/-- A description that can stand on a line and is not taken for a stage, which
is told after `lead`. -/
def IsDescription (lead t : Text) : Prop := t.IsPiece ∧ t ≠ [] ∧ startsWith lead t = false

instance (lead t : Text) : Decidable (IsDescription lead t) :=
  inferInstanceAs (Decidable (_ ∧ _ ∧ _))

section

variable {rows : List (String × String × String)} {lead : Text}
  (hrows : ∀ row ∈ rows, IsDescription lead row.2.2)

include hrows

/-- A stage with a known verb is told by a description. -/
theorem explainStage_of_some {stage : Text} {entry : Verb}
    (h : (VerbTable.ofRows rows).find? (stageVerb stage) = some entry) :
    (explainStage (VerbTable.ofRows rows) lead stage).IsPiece ∧
      startsWith lead (explainStage (VerbTable.ofRows rows) lead stage) = false := by
  obtain ⟨row, hrow, -, rfl⟩ := VerbTable.exists_row h
  obtain ⟨hpiece, hne, hstart⟩ := hrows row hrow
  have htold : explainStage (VerbTable.ofRows rows) lead stage = row.2.2 := by
    have htruthy : (Doc.text row.2.2).isTruthy = true := by
      simpa [Doc.text, Doc.isTruthy, Scalar.isTruthy] using hne
    simp only [explainStage, h, Verb.summary, htruthy, if_true]
    rfl
  rw [htold]
  exact ⟨hpiece, hstart⟩

theorem isPiece_explainStage (hlead : lead.IsPiece) {stage : Text} (hstage : stage.IsPiece) :
    (explainStage (VerbTable.ofRows rows) lead stage).IsPiece := by
  cases hfind : (VerbTable.ofRows rows).find? (stageVerb stage) with
  | some entry => exact (explainStage_of_some hrows hfind).1
  | none =>
    simp only [explainStage, hfind]
    exact hlead.append hstage

/-- **A stage is told by its own text exactly when its verb is unknown.** -/
theorem explainStage_eq_lead_iff (stage : Text) :
    explainStage (VerbTable.ofRows rows) lead stage = lead ++ stage ↔
      (VerbTable.ofRows rows).knows (stageVerb stage) = false := by
  have hknows : (VerbTable.ofRows rows).knows (stageVerb stage) =
      ((VerbTable.ofRows rows).find? (stageVerb stage)).isSome := rfl
  rw [hknows]
  cases hfind : (VerbTable.ofRows rows).find? (stageVerb stage) with
  | some entry =>
    have hstart := (explainStage_of_some hrows hfind).2
    constructor
    · intro htold
      rw [htold, startsWith_append] at hstart
      cases hstart
    · intro h
      cases h
  | none => simp [explainStage, hfind]

end

/-! ### Stages that no rule applied to -/

theorem SplCommand.name_ofVerb {verb : Text} (h : ofVerb verb ≠ .other) :
    (ofVerb verb).name = verb := by
  unfold ofVerb at h ⊢
  cases hfind : all.find? fun command => command.name == verb with
  | none =>
    rw [hfind] at h
    exact absurd rfl h
  | some command =>
    have hname := List.find?_some hfind
    exact eq_of_beq hname

/-- Only `where` has the same name in both languages. -/
theorem SplCommand.eq_filter_of_operator {command : SplCommand} {operator : Text}
    (h : operator ∈ command.operators) (hname : operator = command.name) : command = .filter := by
  have hothers : command ≠ .filter → command.name ∉ command.operators := by
    cases command <;> decide
  refine Decidable.byContradiction fun hne => hothers hne ?_
  rw [← hname]
  exact h

theorem length_strip_le (t : Text) : (strip t).length ≤ t.length := by
  obtain ⟨b, -, hb⟩ := stripEnd_append_rest (stripStart t)
  have hend : (strip t).length + b.length = (stripStart t).length := by
    rw [← List.length_append]
    exact congrArg List.length hb
  have hstart : (stripStart t).length ≤ t.length := (List.dropWhile_sublist isBlank).length_le
  omega

/-- The warning behind a stage that no rule applied to. -/
def unknownMark : Text := " // WARNING: Unknown SPL command"

/-- **What a known command becomes is never its stage with the warning.** -/
theorem commandToKql_text_ne {stage : Text} (hstage : strip stage ≠ []) (equivalent : Doc) :
    (commandToKql stage (stageVerb stage) equivalent).text ≠ stage ++ unknownMark := by
  intro htext
  by_cases hrule : SplCommand.ofVerb (stageVerb stage) = .other
  · -- a command without a rule is kept in a comment, and the last characters differ
    have hgeneric : (commandToKql stage (stageVerb stage) equivalent).text =
        (equivalent.display ++ " /* " ++ stage ++ " *") ++ [CodePoint.char '/'] := by
      unfold commandToKql
      rw [hrule]
      simp [genericToKql, ofString]
    have hmark : stage ++ unknownMark =
        (stage ++ " // WARNING: Unknown SPL comman") ++ [CodePoint.char 'd'] := by
      simp [unknownMark, ofString]
    rw [hgeneric, hmark] at htext
    exact absurd (List.append_inj_right' htext rfl) (by decide)
  · obtain ⟨operator, hoperator, rest, hwritten⟩ :=
      exists_operator_commandToKql stage hrule equivalent
    obtain ⟨hink, -⟩ := bundledKql_knows_operators _ operator hoperator
    -- both texts have the same first word: the operator, and the verb of the stage
    have hfirst : stageVerb operator = stageVerb stage := by
      rw [← stageVerb_append_blank hink (opensBlank_cons (c := ' ') rfl rest), ← hwritten, htext]
      exact stageVerb_append_blank hstage (opensBlank_cons rfl _)
    have hword : ∀ operator ∈ (SplCommand.ofVerb (stageVerb stage)).operators,
        stageVerb operator = operator := by
      cases SplCommand.ofVerb (stageVerb stage) <;> decide
    have hname : operator = (SplCommand.ofVerb (stageVerb stage)).name := by
      rw [SplCommand.name_ofVerb hrule, ← hfirst, hword operator hoperator]
    have hfilter := SplCommand.eq_filter_of_operator hoperator hname
    have hlength : (commandToKql stage (stageVerb stage) equivalent).text.length ≤
        stage.length + 6 := by
      have hargs := length_strip_le ((strip stage).drop (stageVerb stage).length)
      have hdrop := (List.drop_sublist (stageVerb stage).length (strip stage)).length_le
      have hstrip := length_strip_le stage
      have hwhere : (commandToKql stage (stageVerb stage) equivalent).text =
          "where " ++ stageArguments stage (stageVerb stage) := by
        unfold commandToKql
        rw [hfilter]
        rfl
      rw [hwhere, List.length_append, stageArguments]
      have hsix : (ofString "where ").length = 6 := by decide
      omega
    have hmark : unknownMark.length = 32 := by decide
    rw [htext, List.length_append, hmark] at hlength
    omega

/-- **A stage is kept with the warning exactly when its verb is unknown.** -/
theorem stageToKql_text_eq_iff (commands : VerbTable) {stage : Text} (hstage : strip stage ≠ []) :
    (stageToKql commands stage).text = stage ++ unknownMark ↔
      commands.knows (stageVerb stage) = false := by
  have hknows : commands.knows (stageVerb stage) = (commands.find? (stageVerb stage)).isSome := rfl
  rw [hknows]
  cases hfind : commands.find? (stageVerb stage) with
  | some entry =>
    rw [stageToKql_of_some hfind]
    constructor
    · intro htext
      exact absurd htext (commandToKql_text_ne hstage entry.equivalent)
    · intro h
      cases h
  | none =>
    rw [stageToKql_of_none hfind]
    exact ⟨fun _ => rfl, fun _ => rfl⟩

/-- A converted search has one line for each stage, after the table and the
line with the predicates of the head. -/
theorem getElem?_lines_queryToKql {commands : VerbTable} (hcommands : commands.HasPlainEquivalents)
    {query stage : Text} {i : Nat} (h : (Pipeline.ofQuery query).stages[i]? = some stage) :
    (lines (queryToKql commands query).text)[
        1 + (SearchHead.ofText (Pipeline.ofQuery query).head).filterStages.length + i]? =
      some ("| " ++ (stageToKql commands stage).text) := by
  have hcanonical := Pipeline.isCanonical_ofQuery query
  rw [queryToKql_text]
  generalize Pipeline.ofQuery query = p at hcanonical h ⊢
  generalize hwritten : (SearchHead.ofText p.head).filterStages ++
    p.stages.map (fun stage => (stageToKql commands stage).text) = written
  have hpiece : ∀ y ∈ written, y.IsPiece := by
    intro y hy
    rw [← hwritten] at hy
    rcases List.mem_append.mp hy with hy | hy
    · exact (SearchHead.filterStage_spec hcanonical.isPiece_head hy).1.1
    · obtain ⟨stage, hs, rfl⟩ := List.mem_map.mp hy
      exact (stageToKql_spec hcommands (hcanonical.isPiece_stage stage hs)
        (hcanonical.strip_stage stage hs) (hcanonical.stage_ne_nil stage hs)).1.1
  have hlines : ∀ y ∈ written.map (ofString "| " ++ ·), OneLine y ∧ y ≠ [] := by
    intro y hy
    obtain ⟨t, ht, rfl⟩ := List.mem_map.mp hy
    have hmark : OneLine "| " := by decide
    refine ⟨fun c hc => ?_, by simp [ofString]⟩
    rcases List.mem_append.mp hc with hc | hc
    · exact hmark c hc
    · exact (hpiece t ht).oneLine c hc
  have hplace : written[(SearchHead.ofText p.head).filterStages.length + i]? =
      some (stageToKql commands stage).text := by
    rw [← hwritten, List.getElem?_append_right (Nat.le_add_right _ _), Nat.add_sub_cancel_left,
      List.getElem?_map, h]
    rfl
  have hne : written.map (ofString "| " ++ ·) ≠ [] := by
    intro hnil
    rw [List.map_eq_nil_iff.mp hnil] at hplace
    cases hplace
  have htable := (SearchHead.isPiece_table hcanonical.isPiece_head).oneLine
  have hread := lines_append_flatMap htable hlines (Or.inr hne)
  rw [List.flatMap_map] at hread
  have hsame : (fun y : Text => .char '\n' :: (ofString "| " ++ y)) =
      fun y => .char '\n' :: pipe :: .char ' ' :: y := rfl
  rw [hsame] at hread
  rw [hread, Nat.add_assoc, Nat.add_comm 1, List.getElem?_cons_succ, List.getElem?_map, hplace]
  rfl

/-! ### Explanations with the bundled vocabulary -/

-- a literal is checked as the list of its characters: decoding long literals is slow
theorem isDescription_ofList {lead : Text} {t : List Char}
    (h : IsDescription lead (t.map .char)) : IsDescription lead (ofString (String.ofList t)) := by
  unfold ofString
  rw [String.toList_ofList]
  exact h

theorem splRows_described : ∀ row ∈ splRows, IsDescription "Executes: " row.2.2 := by
  unfold splRows
  repeat refine List.forall_mem_cons.mpr ⟨isDescription_ofList (by decide +kernel), ?_⟩
  exact List.forall_mem_nil _

theorem kqlRows_described : ∀ row ∈ kqlRows, IsDescription "Applies: " row.2.2 := by
  unfold kqlRows
  repeat refine List.forall_mem_cons.mpr ⟨isDescription_ofList (by decide +kernel), ?_⟩
  exact List.forall_mem_nil _

theorem isNumberedList_explainSpl (query : Text) :
    IsNumberedList "This SPL query:"
      (describeSplHead (Pipeline.ofQuery query).head ::
        (Pipeline.ofQuery query).stages.map (explainStage bundledSpl "Executes: "))
      (explainSpl bundledSpl query) := by
  have hcanonical := Pipeline.isCanonical_ofQuery query
  refine isNumberedList_numberedList (by decide) fun content hcontent => ?_
  rcases List.mem_cons.mp hcontent with rfl | hcontent
  · exact isPiece_describeSplHead hcanonical.isPiece_head
  · obtain ⟨stage, hs, rfl⟩ := List.mem_map.mp hcontent
    exact isPiece_explainStage splRows_described (by decide) (hcanonical.isPiece_stage stage hs)

theorem isNumberedList_explainKql (query : Text) :
    IsNumberedList "This KQL query:"
      (("Queries the \"" ++ (Pipeline.ofQuery query).head ++ "\" table") ::
        (Pipeline.ofQuery query).stages.map (explainStage bundledKql "Applies: "))
      (explainKql bundledKql query) := by
  have hcanonical := Pipeline.isCanonical_ofQuery query
  refine isNumberedList_numberedList (by decide) fun content hcontent => ?_
  rcases List.mem_cons.mp hcontent with rfl | hcontent
  · exact ((by decide : IsPiece "Queries the \"").append hcanonical.isPiece_head).append (by decide)
  · obtain ⟨stage, hs, rfl⟩ := List.mem_map.mp hcontent
    exact isPiece_explainStage kqlRows_described (by decide) (hcanonical.isPiece_stage stage hs)

/-- The stages of a KQL query that are told by their own text are those with
an unknown verb. -/
theorem map_unknownOperator_told : ∀ stages : List Text,
    ((stages.zip (stages.map (explainStage bundledKql "Applies: "))).filter fun told =>
        told.2 = ofString "Applies: " ++ told.1).map
        (fun told => unknownOperator (stageVerb told.1)) =
      ((stages.map stageVerb).filter fun verb => !bundledKql.knows verb).map unknownOperator
  | [] => rfl
  | stage :: stages => by
    have ih := map_unknownOperator_told stages
    have htold : explainStage bundledKql "Applies: " stage = "Applies: " ++ stage ↔
        bundledKql.knows (stageVerb stage) = false :=
      explainStage_eq_lead_iff kqlRows_described stage
    rw [List.map_cons, List.zip_cons_cons, List.map_cons, List.filter_cons, List.filter_cons]
    cases hknows : bundledKql.knows (stageVerb stage) with
    | true =>
      rw [hknows] at htold
      simpa [htold] using ih
    | false =>
      rw [hknows] at htold
      simpa [htold] using ih

/-- In SPL the line of a stage is the stage itself exactly when the stage stands
unconverted on its line of the KQL query. -/
theorem told_iff_kept {query stage : Text} {i : Nat}
    (h : (Pipeline.ofQuery query).stages[i]? = some stage) :
    explainStage bundledSpl "Executes: " stage = "Executes: " ++ stage ↔
      (lines (queryToKql bundledSpl query).text)[
          1 + (SearchHead.ofText (Pipeline.ofQuery query).head).filterStages.length + i]? =
        some ("| " ++ (stage ++ unknownMark)) := by
  have hcanonical := Pipeline.isCanonical_ofQuery query
  have hmem := List.mem_of_getElem? h
  have hink : strip stage ≠ [] := by
    rw [hcanonical.strip_stage stage hmem]
    exact hcanonical.stage_ne_nil stage hmem
  calc explainStage bundledSpl "Executes: " stage = "Executes: " ++ stage
      ↔ bundledSpl.knows (stageVerb stage) = false :=
        explainStage_eq_lead_iff splRows_described stage
    _ ↔ (stageToKql bundledSpl stage).text = stage ++ unknownMark :=
        (stageToKql_text_eq_iff bundledSpl hink).symm
    _ ↔ _ := by
        rw [getElem?_lines_queryToKql hasPlainEquivalents_bundledSpl h, Option.some.injEq,
          List.append_cancel_left_eq]

/-- In KQL the line of a stage is the stage itself exactly when the validation
warns of its operator. -/
theorem told_iff_warned {query stage : Text} (h : stage ∈ (Pipeline.ofQuery query).stages) :
    explainStage bundledKql "Applies: " stage = "Applies: " ++ stage ↔
      unknownOperator (stageVerb stage) ∈ (validateKql (some bundledKql) query).warnings := by
  have htold : explainStage bundledKql "Applies: " stage = "Applies: " ++ stage ↔
      bundledKql.knows (stageVerb stage) = false :=
    explainStage_eq_lead_iff kqlRows_described stage
  rw [htold, unknownOperator_mem_warnings_iff, unknownVerbs, List.mem_filter]
  constructor
  · intro hunknown
    exact ⟨List.mem_map_of_mem h, by simpa using hunknown⟩
  · intro hunknown
    simpa using hunknown.2

/-- **An explanation agrees with the conversion and the validation.** With the
bundled vocabulary it is a title and one numbered line for each element of the
pipeline, whatever the query is. In SPL the line of a stage is the stage
itself exactly when the stage stands unconverted on its line of the KQL query,
with the warning behind it. In KQL the line of a stage is the stage itself
exactly when the validation warns of its operator, and these stages are, in
order, what the validation warns of. -/
theorem explanation_agrees (loadedAt : Stamp) (query : Text) :
    let v := Vocabulary.bundled loadedAt
    let p := Pipeline.ofQuery query
    (∃ contents : List Text, contents.length = p.toList.length ∧
      IsNumberedList "This SPL query:" contents (explain v .spl query) ∧
      ∀ (i : Nat) (stage : Text), p.stages[i]? = some stage →
        (contents[i + 1]? = some ("Executes: " ++ stage) ↔
          (lines (queryToKql v.spl query).text)[
              1 + (SearchHead.ofText p.head).filterStages.length + i]? =
            some ("| " ++ (stage ++ unknownMark)))) ∧
      ∃ contents : List Text, contents.length = p.toList.length ∧
        IsNumberedList "This KQL query:" contents (explain v .kql query) ∧
        (∀ (i : Nat) (stage : Text), p.stages[i]? = some stage →
          (contents[i + 1]? = some ("Applies: " ++ stage) ↔
            unknownOperator (stageVerb stage) ∈ (validateKql (some v.kql) query).warnings)) ∧
        (validateKql (some v.kql) query).warnings.filter (startsWith "Unknown KQL operator: ") =
          ((p.stages.zip (contents.drop 1)).filter fun told =>
            told.2 = ofString "Applies: " ++ told.1).map
            fun told => unknownOperator (stageVerb told.1) := by
  intro v p
  refine ⟨⟨_, by simp [p, Pipeline.toList], isNumberedList_explainSpl query, ?_⟩,
    ⟨_, by simp [p, Pipeline.toList], isNumberedList_explainKql query, ?_, ?_⟩⟩
  · intro i stage h
    rw [List.getElem?_cons_succ, List.getElem?_map, h, Option.map_some, Option.some.injEq]
    exact told_iff_kept h
  · intro i stage h
    rw [List.getElem?_cons_succ, List.getElem?_map, h, Option.map_some, Option.some.injEq]
    exact told_iff_warned (List.mem_of_getElem? h)
  · rw [List.drop_one, List.tail_cons, filter_warnings_validateKql]
    exact (map_unknownOperator_told p.stages).symm

/-- A stage that is not known between two that are, in either language. -/
theorem explanation_agrees_unknown :
    (∃ contents : List Text,
      (Pipeline.ofQuery "index=web\n| stats n | frob x | head 5").stages[1]? =
          some (ofString "frob x") ∧
        IsNumberedList "This SPL query:" contents
          (explain (.bundled ⟨0, some 0⟩) .spl "index=web\n| stats n | frob x | head 5") ∧
        contents[2]? = some ("Executes: " ++ ofString "frob x")) ∧
      ∃ contents : List Text,
        (Pipeline.ofQuery "Logins\n| take 5 | frob x | where n").stages[1]? =
            some (ofString "frob x") ∧
          IsNumberedList "This KQL query:" contents
            (explain (.bundled ⟨0, some 0⟩) .kql "Logins\n| take 5 | frob x | where n") ∧
          contents[2]? = some ("Applies: " ++ ofString "frob x") := by
  obtain ⟨⟨told, -, hlist, htold⟩, -⟩ :=
    explanation_agrees ⟨0, some 0⟩ "index=web\n| stats n | frob x | head 5"
  obtain ⟨-, applied, -, hlist', happlied, -⟩ :=
    explanation_agrees ⟨0, some 0⟩ "Logins\n| take 5 | frob x | where n"
  have hstage : (Pipeline.ofQuery "index=web\n| stats n | frob x | head 5").stages[1]? =
      some (ofString "frob x") := by decide
  have hstage' : (Pipeline.ofQuery "Logins\n| take 5 | frob x | where n").stages[1]? =
      some (ofString "frob x") := by decide
  refine ⟨⟨told, hstage, hlist, (htold 1 _ hstage).mpr ?_⟩,
    ⟨applied, hstage', hlist', (happlied 1 _ hstage').mpr ?_⟩⟩
  · decide
  · decide

end TwinQuery
