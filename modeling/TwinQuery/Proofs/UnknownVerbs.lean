/-
# Validation and conversion know the same verbs

A query is validated as it is written, cut at its pipes, and converted after
its lines are stripped and joined. Both go by the first words of the stages,
and these are the same: a line break is a blank, so joining the lines leaves
the first word of every piece alone (`stageVerb_joinLines`), and a piece of
which nothing is left had no word (`joinLines_eq_nil_iff`). So the verbs that
the validation reads are those of the head and the stages (`verbsOf_cutAt`).

For SPL the conversion notes the verb of every stage that is not in the
vocabulary, and no other note begins like these (`filter_notes_stageToKql`).
The validation warns of the same verbs, less those that begin a search, and
reads the head as a stage too (`unknown_commands_noted_and_warned`).

Key definitions: `unknownVerbs`, `unknownStageNote`.
Key theorems: `stageVerb_joinLines`, `verbsOf_cutAt`, `queryToKql_notes`,
`filter_notes_stageToKql`, `unknown_commands_noted_and_warned`.
-/
import TwinQuery.Proofs.OutputFindings

namespace TwinQuery

open Text

/-! ### First words of joined lines -/

theorem joinLines_eq_nil_iff (t : Text) : joinLines t = [] ↔ strip t = [] := by
  constructor
  · intro h
    rcases blank_or_ink t with hblank | ⟨a, c, b, hc, rfl⟩
    · exact strip_of_blank hblank
    · obtain ⟨x, y, hxy, -⟩ := joinLines_append_ink hc a b
      rw [hxy] at h
      simp at h
  · intro h
    exact joinLines_of_blank ((strip_eq_nil_iff t).mp h)

theorem stageVerb_blank_append {b : Text} (hb : ∀ c ∈ b, isBlank c) (t : Text) :
    stageVerb (b ++ t) = stageVerb t := by
  have hstart : stripStart (b ++ t) = stripStart t := List.dropWhile_append_of_pos hb
  rw [stageVerb_eq, hstart, stageVerb_eq]

/-- **Joining the lines of a text does not change its first word.** -/
theorem stageVerb_joinLines (t : Text) : stageVerb (joinLines t) = stageVerb t := by
  induction t using cutInduction isLineBreak with
  | whole t ht => rw [joinLines_of_oneLine ht, stageVerb_strip]
  | cut l c r hl hc ih =>
    have hbreak : OpensBlank (c :: r) := opensBlank_cons (isBlank_of_isLineBreak hc) r
    rw [joinLines_append_break hl hc]
    by_cases hline : strip l = []
    · -- the first line is blank, and the first word is in the lines after it
      have hblank : ∀ d ∈ l ++ [c], isBlank d := by
        intro d hd
        rcases List.mem_append.mp hd with hd | hd
        · exact (strip_eq_nil_iff l).mp hline d hd
        · rw [List.mem_singleton.mp hd]
          exact isBlank_of_isLineBreak hc
      have hskip := stageVerb_blank_append hblank r
      rw [List.append_assoc, List.singleton_append] at hskip
      rw [hline, beside_nil_left, ih, hskip]
    · rw [stageVerb_append_blank hline hbreak]
      by_cases hrest : joinLines r = []
      · rw [hrest, beside_nil_right, stageVerb_strip]
      · have hink : strip (strip l) ≠ [] := by rwa [strip_strip]
        rw [beside_of_ne_nil hline hrest, stageVerb_append_blank hink (opensBlank_cons rfl _),
          stageVerb_strip]

/-! ### The verbs that a validation reads -/

theorem verbsOf_cons_of_blank {x : Text} (hx : strip x = []) (ys : List Text) :
    verbsOf (x :: ys) = verbsOf ys := by
  simp [verbsOf, hx]

/-- Pieces have the same verbs before and after their lines are joined. -/
theorem map_stageVerb_filter_joinLines : ∀ pieces : List Text,
    ((pieces.map joinLines).filter fun stage => !stage.isEmpty).map stageVerb = verbsOf pieces
  | [] => rfl
  | piece :: pieces => by
    have ih := map_stageVerb_filter_joinLines pieces
    by_cases hpiece : strip piece = []
    · have hjoin := (joinLines_eq_nil_iff piece).mpr hpiece
      rw [List.map_cons, List.filter_cons_of_neg (by simp [hjoin]), ih,
        verbsOf_cons_of_blank hpiece]
    · have hjoin : joinLines piece ≠ [] := fun h => hpiece ((joinLines_eq_nil_iff piece).mp h)
      rw [List.map_cons, List.filter_cons_of_pos (by simpa using hjoin), List.map_cons, ih,
        stageVerb_joinLines, verbsOf_cons hpiece]

theorem verbsOf_drop_cutAt (query : Text) :
    verbsOf ((cutAt pipe query).drop 1) = (Pipeline.ofQuery query).stages.map stageVerb := by
  obtain ⟨piece, pieces, hcut⟩ := List.exists_cons_of_ne_nil (cutAt_ne_nil pipe query)
  rw [Pipeline.ofQuery_of_cutAt hcut, map_stageVerb_filter_joinLines, hcut]
  rfl

/-- **The verbs of a query as it is written** are the verb of its head, when
it has one, and the verbs of its stages. -/
theorem verbsOf_cutAt (query : Text) :
    verbsOf (cutAt pipe query) =
      (if (Pipeline.ofQuery query).head = [] then []
        else [stageVerb (Pipeline.ofQuery query).head]) ++
        (Pipeline.ofQuery query).stages.map stageVerb := by
  have hstages := verbsOf_drop_cutAt query
  obtain ⟨piece, pieces, hcut⟩ := List.exists_cons_of_ne_nil (cutAt_ne_nil pipe query)
  have hhead : (Pipeline.ofQuery query).head = joinLines piece := by
    rw [Pipeline.ofQuery_of_cutAt hcut]
  rw [hcut, List.drop_one, List.tail_cons] at hstages
  rw [hcut, hhead, ← hstages]
  by_cases hjoin : joinLines piece = []
  · have hpiece := (joinLines_eq_nil_iff piece).mp hjoin
    rw [if_pos hjoin, List.nil_append, verbsOf_cons_of_blank hpiece]
  · have hpiece : strip piece ≠ [] := fun h => hjoin ((joinLines_eq_nil_iff piece).mpr h)
    rw [if_neg hjoin, verbsOf_cons hpiece, stageVerb_joinLines, List.singleton_append]

/-! ### The notes of a conversion to KQL -/

theorem Fragment.concat_notes : ∀ fragments : List Fragment,
    (Fragment.concat fragments).notes = fragments.flatMap Fragment.notes
  | [] => rfl
  | fragment :: fragments => by
    have ih := Fragment.concat_notes fragments
    rw [List.flatMap_cons, ← ih]
    rfl

/-- The notes on a search: those on the head, then those on each stage. -/
theorem queryToKql_notes (commands : VerbTable) (query : Text) :
    (queryToKql commands query).notes =
      (SearchHead.ofText (Pipeline.ofQuery query).head).notes ++
        (Pipeline.ofQuery query).stages.flatMap fun stage => (stageToKql commands stage).notes := by
  have hlines : ∀ stages : List Text,
      (Fragment.concat (stages.map (stageLineToKql commands))).notes =
        stages.flatMap fun stage => (stageToKql commands stage).notes := by
    intro stages
    rw [Fragment.concat_notes, List.flatMap_map]
    rfl
  calc (queryToKql commands query).notes
      = (SearchHead.ofText (Pipeline.ofQuery query).head).notes ++
          (Fragment.concat ((Pipeline.ofQuery query).stages.map (stageLineToKql commands))).notes := rfl
    _ = _ := by rw [hlines]

/-- The note on a stage with an unknown command. -/
def unknownStageNote (verb : Text) : Text := "Unknown command: " ++ verb

/-- A text with another first character does not begin so. -/
theorem not_startsWith_of_ne {c d : CodePoint} (h : c ≠ d) (start t : Text) :
    startsWith (c :: start) (d :: t) = false := by
  simp [startsWith, dropStart?, h]

theorem filter_notes_head (h : SearchHead) :
    h.notes.filter (startsWith "Unknown command: ") = [] := by
  have other : ∀ {c : CodePoint} {note : Text},
      'U' ≠ c → ¬ startsWith "Unknown command: " (c :: note) :=
    fun hc => by simp [ofString, not_startsWith_of_ne hc]
  rw [List.filter_eq_nil_iff]
  intro note hnote
  simp only [SearchHead.notes, List.mem_append, Option.mem_toList, Option.map_eq_some_iff,
    List.mem_map] at hnote
  rcases hnote with (⟨index, -, rfl⟩ | ⟨filter, -, rfl⟩) | ⟨earliest, -, rfl⟩
  · exact other (c := 'M') (by decide)
  · exact other (c := 'F') (by decide)
  · exact other (c := 'T') (by decide)

/-- No rule writes a note that begins like the one on an unknown command. -/
theorem filter_notes_commandToKql (stage verb : Text) (equivalent : Doc) :
    (commandToKql stage verb equivalent).notes.filter (startsWith "Unknown command: ") = [] := by
  have single : ∀ {c : CodePoint} {note : Text}, 'U' ≠ c →
      [c :: note].filter (startsWith "Unknown command: ") = [] :=
    fun hc => by simp [ofString, not_startsWith_of_ne hc]
  unfold commandToKql
  cases SplCommand.ofVerb verb with
  | spath =>
    simp only [spathToKql]
    split
    · exact single (c := 's') (by decide)
    · exact single (c := 's') (by decide)
  | rex => exact single (c := 'r') (by decide)
  | other => exact single (c := 'N') (by decide)
  | _ => rfl

/-- **A stage is noted as unknown exactly when its verb is.** -/
theorem filter_notes_stageToKql (commands : VerbTable) (stage : Text) :
    (stageToKql commands stage).notes.filter (startsWith "Unknown command: ") =
      if commands.knows (stageVerb stage) then [] else [unknownStageNote (stageVerb stage)] := by
  have hknows : commands.knows (stageVerb stage) = (commands.find? (stageVerb stage)).isSome := rfl
  rw [hknows]
  cases hfind : commands.find? (stageVerb stage) with
  | some entry => rw [stageToKql_of_some hfind, filter_notes_commandToKql]; rfl
  | none =>
    have hstart : startsWith "Unknown command: " (unknownStageNote (stageVerb stage)) :=
      startsWith_append _ _
    rw [stageToKql_of_none hfind]
    exact List.filter_cons_of_pos hstart

/-! ### The same verbs -/

/-- The verbs of the stages of a query that a table does not know. -/
def unknownVerbs (table : VerbTable) (query : Text) : List Text :=
  ((Pipeline.ofQuery query).stages.map stageVerb).filter fun verb => !table.knows verb

theorem filter_notes_stages (commands : VerbTable) : ∀ stages : List Text,
    (stages.flatMap fun stage => (stageToKql commands stage).notes).filter
        (startsWith "Unknown command: ") =
      ((stages.map stageVerb).filter fun verb => !commands.knows verb).map unknownStageNote
  | [] => rfl
  | stage :: stages => by
    rw [List.flatMap_cons, List.filter_append, filter_notes_stageToKql,
      filter_notes_stages commands stages, List.map_cons, List.filter_cons]
    cases commands.knows (stageVerb stage) <;> rfl

theorem filter_startsWith_map (start : Text) (texts : List Text) :
    (texts.map (start ++ ·)).filter (startsWith start) = texts.map (start ++ ·) := by
  rw [List.filter_eq_self]
  intro t ht
  obtain ⟨text, -, rfl⟩ := List.mem_map.mp ht
  exact startsWith_append _ _

/-- Of the warnings on a search those on unknown commands are what is found
in its verbs. -/
theorem filter_warnings_validateSpl (commands : VerbTable) (query : Text) :
    (validateSpl (some commands) query).warnings.filter (startsWith "Unknown SPL command: ") =
      ((verbsOf (cutAt pipe query)).filter fun verb =>
        !commands.knows verb && !startsWithAny searchStarts verb).map unknownCommand := by
  have hpipe : (splPipeWarnings query).filter (startsWith "Unknown SPL command: ") = [] := by
    unfold splPipeWarnings
    split
    · rfl
    · decide
  have hwarnings : (validateSpl (some commands) query).warnings =
      splPipeWarnings query ++
        ((verbsOf (cutAt pipe query)).filter fun verb =>
          !commands.knows verb && !startsWithAny searchStarts verb).map unknownCommand := rfl
  rw [hwarnings, List.filter_append, hpipe, List.nil_append]
  exact filter_startsWith_map "Unknown SPL command: " _

/-- **A search is validated and converted with the same verbs.** The notes on
unknown commands are those of the verbs of the stages that the table does not
know, in order. The warnings on unknown commands are that of the head, when it
has a verb that is neither known nor the beginning of a search, and then those
of the same verbs, less the ones that begin a search. -/
theorem unknown_commands_noted_and_warned (commands : VerbTable) (query : Text) :
    let head := (Pipeline.ofQuery query).head
    (queryToKql commands query).notes.filter (startsWith "Unknown command: ") =
        (unknownVerbs commands query).map unknownStageNote ∧
      (validateSpl (some commands) query).warnings.filter (startsWith "Unknown SPL command: ") =
        ((if head ≠ [] ∧ ¬ commands.knows (stageVerb head) ∧
              ¬ startsWithAny searchStarts (stageVerb head) then [stageVerb head] else []) ++
          (unknownVerbs commands query).filter fun verb => !startsWithAny searchStarts verb).map
            unknownCommand := by
  intro head
  constructor
  · rw [queryToKql_notes, List.filter_append, filter_notes_head, filter_notes_stages,
      List.nil_append]
    rfl
  · rw [filter_warnings_validateSpl, verbsOf_cutAt, List.filter_append, unknownVerbs,
      List.filter_filter]
    have hhead : (if head = [] then [] else [stageVerb head]).filter
          (fun verb => !commands.knows verb && !startsWithAny searchStarts verb) =
        if head ≠ [] ∧ ¬ commands.knows (stageVerb head) ∧
          ¬ startsWithAny searchStarts (stageVerb head) then [stageVerb head] else [] := by
      by_cases hempty : head = []
      · simp [hempty]
      · simp [hempty, List.filter_cons]
    rw [hhead]
    simp only [Bool.and_comm]

end TwinQuery
