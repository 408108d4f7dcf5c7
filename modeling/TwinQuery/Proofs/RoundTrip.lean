/-
# There and back

The two conversions are not inverse to each other: a search head is read into
its parts, and what comes back for it is another search. But they are inverse
on the stages that both languages can say. Written after a query, such stages
are converted one by one and leave the conversion of the query as it is, notes
included (`queryToKql_append`, `queryToSpl_append`); and since each conversion
takes one spelling of a shared stage to the other, there and back they come
out as they were written, after what comes back for the head alone
(`queryToSpl_queryToKql`, `queryToKql_queryToSpl`).

Key theorems: `stagesToSpl_append`, `queryToKql_append`, `queryToSpl_append`,
`queryToSpl_queryToKql`, `queryToKql_queryToSpl`.
-/
import TwinQuery.Proofs.Head
import TwinQuery.Proofs.PipelineToSpl
import TwinQuery.Proofs.SharedStage

namespace TwinQuery

open Text

attribute [ext] Fragment

theorem Fragment.append_assoc (x y z : Fragment) : x ++ y ++ z = x ++ (y ++ z) :=
  Fragment.ext (List.append_assoc ..) (List.append_assoc ..)

theorem Fragment.append_empty (x : Fragment) : x ++ Fragment.plain [] = x :=
  Fragment.ext (List.append_nil x.text) (List.append_nil x.notes)

/-! ### Shared stages after a query -/

/-- Shared stages after a query are read as its last stages, in either
spelling. -/
theorem ofQuery_append_shared {b : CodePoint} (hb : isBlank b) (query : Text)
    {spelling : SharedStage → Text} (hspelling : ∀ s, (spelling s).IsOperand)
    (stages : List SharedStage) :
    Pipeline.ofQuery (query ++ stages.flatMap fun s => b :: pipe :: ' ' :: spelling s) =
      ⟨(Pipeline.ofQuery query).head, (Pipeline.ofQuery query).stages ++ stages.map spelling⟩ := by
  have hstage : ∀ y ∈ stages.map spelling, y.IsStage := by
    intro y hy
    obtain ⟨s, -, rfl⟩ := List.mem_map.mp hy
    exact (hspelling s).isStage
  have hstrip : (stages.map spelling).map strip = stages.map spelling := by
    rw [List.map_map]
    exact List.map_congr_left fun s _ => (hspelling s).2.1
  have h := Pipeline.ofQuery_append hb query hstage
  rwa [List.flatMap_map, hstrip] at h

theorem Fragment.concat_append : ∀ xs ys : List Fragment,
    Fragment.concat (xs ++ ys) = Fragment.concat xs ++ Fragment.concat ys
  | [], _ => rfl
  | x :: xs, ys => by
    rw [List.cons_append, concat, concat, concat_append xs ys, Fragment.append_assoc]

theorem concat_stageLineToKql : ∀ stages : List SharedStage,
    Fragment.concat ((stages.map SharedStage.spl).map (stageLineToKql bundledSpl)) =
      .plain (stages.flatMap fun s => "\n| " ++ s.kql)
  | [] => rfl
  | s :: stages => by
    rw [List.map_cons, List.map_cons, Fragment.concat, concat_stageLineToKql stages, stageLineToKql,
      s.stageToKql_spl]
    rfl

/-- **Shared stages after a search are converted one by one**, and the
conversion of the search does not change. -/
theorem queryToKql_append {b : CodePoint} (hb : isBlank b) (query : Text)
    (stages : List SharedStage) :
    queryToKql bundledSpl (query ++ stages.flatMap fun s => b :: pipe :: ' ' :: s.spl) =
      queryToKql bundledSpl query ++ .plain (stages.flatMap fun s => "\n| " ++ s.kql) := by
  unfold queryToKql
  simp only [ofQuery_append_shared hb query SharedStage.isOperand_spl, List.map_append]
  rw [Fragment.concat_append, concat_stageLineToKql, Fragment.append_assoc]

/-- The SPL of stages in a row. The second part is converted as after the
first. -/
theorem stagesToSpl_append : ∀ (xs ys : List Text) (inline : Bool),
    stagesToSpl inline (xs ++ ys) =
      stagesToSpl inline xs ++ stagesToSpl (inline && xs.all isFilterStage) ys
  | [], ys, inline => by
    rw [List.all_nil, Bool.and_true]
    rfl
  | x :: xs, ys, inline => by
    rw [List.cons_append, stagesToSpl_cons, stagesToSpl_cons, stagesToSpl_append xs ys,
      Fragment.append_assoc, List.all_cons, Bool.and_assoc]

theorem stagesToSpl_kql : ∀ (stages : List SharedStage) (inline : Bool),
    stagesToSpl inline (stages.map SharedStage.kql) =
      .plain (stages.flatMap fun s => " | " ++ s.spl)
  | [], _ => rfl
  | s :: stages, inline => by
    rw [List.map_cons, stagesToSpl_cons, stagesToSpl_kql stages, s.operatorToSpl_kql]
    rfl

/-- **Shared stages after a KQL query are converted one by one**, and the
conversion of the query does not change. -/
theorem queryToSpl_append {b : CodePoint} (hb : isBlank b) {m : TableMapping} {query : Text}
    {spl : Fragment} (hquery : queryToSpl m query = .ok spl) (stages : List SharedStage) :
    queryToSpl m (query ++ stages.flatMap fun s => b :: pipe :: ' ' :: s.kql) =
      .ok (spl ++ .plain (stages.flatMap fun s => " | " ++ s.spl)) := by
  cases htable : tableToSpl m (Pipeline.ofQuery query).head with
  | error fault =>
    simp only [queryToSpl, htable] at hquery
    cases hquery
  | ok search =>
    rw [queryToSpl_of_tableToSpl htable] at hquery
    obtain rfl := Except.ok.inj hquery
    have hread := ofQuery_append_shared hb query SharedStage.isOperand_kql stages
    have htable' : tableToSpl m (Pipeline.ofQuery
        (query ++ stages.flatMap fun s => b :: pipe :: ' ' :: s.kql)).head = .ok search := by
      rw [hread]
      exact htable
    rw [queryToSpl_of_tableToSpl htable', hread, stagesToSpl_append, stagesToSpl_kql,
      Fragment.append_assoc]

/-! ### Heads alone -/

theorem queryToKql_of_not_mem (commands : VerbTable) {head : Text} (h : pipe ∉ head) :
    queryToKql commands head = headToKql (joinLines head) := by
  unfold queryToKql
  rw [Pipeline.ofQuery_of_not_mem h]
  exact Fragment.append_empty _

theorem queryToSpl_of_isPiece {m : TableMapping} {table : Text} {search : Fragment}
    (htable : table.IsPiece) (hsearch : tableToSpl m (strip table) = .ok search) :
    queryToSpl m table = .ok search := by
  have hread : Pipeline.ofQuery table = ⟨strip table, []⟩ := by
    rw [Pipeline.ofQuery_of_not_mem htable.not_mem, joinLines_of_oneLine htable.oneLine]
  have hhead : tableToSpl m (Pipeline.ofQuery table).head = .ok search := by
    rw [hread]
    exact hsearch
  rw [queryToSpl_of_tableToSpl hhead, hread]
  exact congrArg Except.ok (Fragment.append_empty search)

/-- A mapping whose names are texts converts every query. -/
theorem queryToSpl_eq_ok {m : TableMapping} (hm : m.HasTextKeys) (query : Text) :
    ∃ spl, queryToSpl m query = .ok spl := by
  obtain ⟨entry, usedDefault, hresolve⟩ := TableMapping.resolve_eq_ok hm (Pipeline.ofQuery query).head
  obtain ⟨search, hsearch, -, -⟩ := tableToSpl_of_resolve hresolve
  exact ⟨_, queryToSpl_of_tableToSpl hsearch⟩

/-- The search for an entry begins with its index, so only the blanks after it
can be stripped. -/
theorem headToKql_strip_search (entry : Entry) :
    headToKql (strip entry.search) = headToKql entry.search := by
  have hstart : stripStart entry.search = entry.search := stripStart_cons_ink (by decide : isInk 'i') _
  unfold headToKql
  rw [strip, hstart, SearchHead.ofText_stripEnd]

/-! ### There and back -/

/-- **From SPL to KQL and back, shared stages are reproduced** after what
comes back for the head alone, and without a note of their own. -/
theorem queryToSpl_queryToKql (m : TableMapping) (hm : m.HasTextKeys) (head : Text)
    (hhead : pipe ∉ head) (stages : List SharedStage) :
    ∃ start : Fragment,
      queryToSpl m (headToKql (strip (joinLines head))).text = .ok start ∧
      queryToSpl m (queryToKql bundledSpl
          (joinWith " | " (head :: stages.map SharedStage.spl))).text =
        .ok (start ++ .plain (stages.flatMap fun s => " | " ++ s.spl)) := by
  obtain ⟨start, hstart⟩ := queryToSpl_eq_ok hm (headToKql (strip (joinLines head))).text
  refine ⟨start, hstart, ?_⟩
  have hkql : queryToKql bundledSpl (joinWith " | " (head :: stages.map SharedStage.spl)) =
      headToKql (strip (joinLines head)) ++ .plain (stages.flatMap fun s => "\n| " ++ s.kql) := by
    rw [joinWith_eq_flatMap, List.flatMap_map, strip_joinLines, ← queryToKql_of_not_mem bundledSpl hhead]
    exact queryToKql_append (b := ' ') rfl head stages
  rw [hkql]
  exact queryToSpl_append (b := '\n') rfl hstart stages

/-- Names that look like keywords and signs. -/
theorem queryToSpl_queryToKql_keywords :
    TableMapping.defaults.HasTextKeys ∧ pipe ∉ ("index=main\nearliest=-1h " : Text) ∧
      ∃ start : Fragment,
        queryToSpl .defaults (headToKql (strip (joinLines "index=main\nearliest=-1h "))).text =
          .ok start ∧
        queryToSpl .defaults (queryToKql bundledSpl
            "index=main\nearliest=-1h  | fields - - x | sort -by | rename as as a=b").text =
          .ok (start ++ .plain " | fields - - x | sort -by | rename as as a=b") :=
  ⟨hasTextKeys_defaults, by decide,
    queryToSpl_queryToKql .defaults hasTextKeys_defaults "index=main\nearliest=-1h " (by decide)
      [.drop ⟨"- x", by decide⟩, .sort .descending ⟨"by", by decide⟩,
        .rename ⟨"as", by decide⟩ ⟨"a=b", by decide⟩]⟩

/-- **From KQL to SPL and back, shared stages are reproduced** after what
comes back for the table alone, and without a note of their own. The blanks
around a table are not part of its name. -/
theorem queryToKql_queryToSpl (m : TableMapping) (hm : m.HasTextKeys) (table : Text)
    (htable : table.IsPiece)
    (hentry : ∀ entry usedDefault,
      m.resolve (strip table) = .ok (entry, usedDefault) → entry.IsPlain)
    (stages : List SharedStage) :
    ∃ search spl : Fragment,
      tableToSpl m (strip table) = .ok search ∧
      queryToSpl m (joinWith " | " (table :: stages.map SharedStage.kql)) = .ok spl ∧
      queryToKql bundledSpl spl.text =
        headToKql search.text ++ .plain (stages.flatMap fun s => "\n| " ++ s.kql) := by
  obtain ⟨entry, usedDefault, hresolve⟩ := TableMapping.resolve_eq_ok hm (strip table)
  obtain ⟨search, hsearch, htext, -⟩ := tableToSpl_of_resolve hresolve
  have hpiece : entry.search.IsPiece := (hentry entry usedDefault hresolve).isPiece_search
  have hspl : queryToSpl m (joinWith " | " (table :: stages.map SharedStage.kql)) =
      .ok (search ++ .plain (stages.flatMap fun s => " | " ++ s.spl)) := by
    rw [joinWith_eq_flatMap, List.flatMap_map]
    exact queryToSpl_append (b := ' ') rfl (queryToSpl_of_isPiece htable hsearch) stages
  refine ⟨search, _, hsearch, hspl, ?_⟩
  calc queryToKql bundledSpl (search ++ .plain (stages.flatMap fun s => " | " ++ s.spl)).text
      = queryToKql bundledSpl search.text ++ .plain (stages.flatMap fun s => "\n| " ++ s.kql) :=
        queryToKql_append (b := ' ') rfl search.text stages
    _ = headToKql (strip entry.search) ++ .plain (stages.flatMap fun s => "\n| " ++ s.kql) := by
        rw [htext, queryToKql_of_not_mem bundledSpl hpiece.not_mem, joinLines_of_oneLine hpiece.oneLine]
    _ = headToKql search.text ++ .plain (stages.flatMap fun s => "\n| " ++ s.kql) := by
        rw [headToKql_strip_search, htext]

/-- The mapping of every table to an index with a blank after it. -/
def spacedMapping : TableMapping := ⟨[(.text defaultName, ⟨"auth ", none, []⟩)], 1, rfl⟩

/-- An index with a blank after it, and names that look like keywords and
signs. -/
theorem queryToKql_queryToSpl_keywords :
    spacedMapping.HasTextKeys ∧ IsPiece " Logins " ∧
      (∀ entry usedDefault,
        spacedMapping.resolve (strip " Logins ") = .ok (entry, usedDefault) → entry.IsPlain) ∧
      ∃ search spl : Fragment,
        tableToSpl spacedMapping (strip " Logins ") = .ok search ∧
        queryToSpl spacedMapping
          " Logins  | order by desc asc | project-rename = = == | project by" = .ok spl ∧
        queryToKql bundledSpl spl.text =
          headToKql search.text ++
            .plain "\n| order by desc asc\n| project-rename = = ==\n| project by" := by
  have hkeys : spacedMapping.HasTextKeys := fun row hrow =>
    ⟨defaultName, congrArg Prod.fst (List.mem_singleton.mp hrow)⟩
  have hplain : ∀ entry usedDefault,
      spacedMapping.resolve (strip " Logins ") = .ok (entry, usedDefault) → entry.IsPlain := by
    intro entry usedDefault h
    obtain rfl : ⟨"auth ", none, []⟩ = entry := congrArg Prod.fst (Except.ok.inj h)
    refine ⟨by decide, ?_⟩
    rintro _ ⟨⟩
  exact ⟨hkeys, by decide, hplain,
    queryToKql_queryToSpl spacedMapping hkeys " Logins " (by decide) hplain
      [.sort .ascending ⟨"desc", by decide⟩, .rename ⟨"==", by decide⟩ ⟨"=", by decide⟩,
        .keep ⟨"by", by decide⟩ (by decide)]⟩

end TwinQuery
