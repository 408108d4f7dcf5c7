/-
# Stages kept as comments

Three rules write a stage of a search into a comment after a KQL operator:
the ones for `rex`, for `spath` without a path or an output, and for a command
without a rule of its own. The stage is written as it is, and it may hold the
two characters that end a comment; in a regular expression, `.*/` does. So
the comment ends where it should, and taking it out leaves the operator alone,
exactly when they do not occur in the stage (`dropComment_stageToKql`).

That a mark occurs is not changed by the blanks around a text or by the text
that the rules add after a blank (`isInfix_append_cons`, `isInfix_strip`).

Key definitions: `dropComment`, `keptOperator?`.
Key theorems: `isInfix_strip`, `isInfix_stageArguments`,
`afterComment_append_commentEnd`, `dropComment_append_commentStart`,
`dropComment_stageToKql`.
-/
import TwinQuery.Proofs.Explanation

namespace TwinQuery

open Text

/-! ### Where a mark occurs -/

section

variable {p : Text} (hp : ∀ c ∈ p, isInk c) (hne : p ≠ [])

include hp

theorem not_mem_of_isBlank {c : CodePoint} (hc : isBlank c) : c ∉ p := by
  intro hmem
  have hink := hp c hmem
  rw [isInk_of_isBlank hc] at hink
  cases hink

include hne

theorem not_isInfix_of_blank {b : Text} (hb : ∀ c ∈ b, isBlank c) : ¬ p <:+: b := by
  intro h
  obtain ⟨c, hc⟩ := List.exists_mem_of_ne_nil p hne
  exact not_mem_of_isBlank hp (hb c (h.subset hc)) hc

theorem isInfix_cons_blank {c : CodePoint} (hc : isBlank c) (t : Text) :
    p <:+: c :: t ↔ p <:+: t := by
  have h := @isInfix_append_cons p t c (not_mem_of_isBlank hp hc) []
  rwa [List.nil_append, List.infix_nil, or_iff_right hne] at h

theorem isInfix_stripStart : ∀ t : Text, p <:+: stripStart t ↔ p <:+: t
  | [] => Iff.rfl
  | c :: t => by
    by_cases hc : isInk c
    · rw [stripStart_cons_ink hc]
    · have hblank := isBlank_of_not_isInk hc
      rw [stripStart_cons_blank hblank, isInfix_stripStart t, isInfix_cons_blank hp hne hblank]

theorem isInfix_stripEnd (t : Text) : p <:+: stripEnd t ↔ p <:+: t := by
  obtain ⟨b, hb, ht⟩ := stripEnd_append_rest t
  cases b with
  | nil => rw [← ht, List.append_nil, stripEnd_stripEnd]
  | cons c b =>
    obtain ⟨hc, hb⟩ := List.forall_mem_cons.mp hb
    have h := @isInfix_append_cons p b c (not_mem_of_isBlank hp hc) (stripEnd t)
    rw [ht, or_iff_left (not_isInfix_of_blank hp hne hb)] at h
    exact h.symm

/-- A mark occurs in a text with and without the blanks around it. -/
theorem isInfix_strip (t : Text) : p <:+: strip t ↔ p <:+: t :=
  (isInfix_stripEnd hp hne (stripStart t)).trans (isInfix_stripStart hp hne t)

/-- A mark occurs in the verb of a stage or in its arguments. -/
theorem isInfix_stageArguments (stage : Text) :
    p <:+: stage ↔ p <:+: stageVerb stage ∨ p <:+: stageArguments stage (stageVerb stage) := by
  have hsplit : stageVerb stage ++ (strip stage).dropWhile isInk = strip stage :=
    List.takeWhile_append_dropWhile
  have hdrop : (strip stage).drop (stageVerb stage).length = (strip stage).dropWhile isInk :=
    calc (strip stage).drop (stageVerb stage).length
        = (stageVerb stage ++ (strip stage).dropWhile isInk).drop (stageVerb stage).length := by
          rw [hsplit]
      _ = (strip stage).dropWhile isInk := List.drop_left
  calc p <:+: stage
      ↔ p <:+: stageVerb stage ++ (strip stage).dropWhile isInk := by
        rw [hsplit, isInfix_strip hp hne]
    _ ↔ p <:+: stageVerb stage ∨ p <:+: (strip stage).dropWhile isInk := by
        -- what follows the verb is nothing or begins with a blank
        cases hrest : (strip stage).dropWhile isInk with
        | nil => simp [hne]
        | cons c rest =>
          have hhead := List.head?_dropWhile_not isInk (strip stage)
          rw [hrest] at hhead
          have hc : isBlank c := isBlank_of_not_isInk (by simpa using hhead)
          rw [isInfix_append_cons (not_mem_of_isBlank hp hc), isInfix_cons_blank hp hne hc]
    _ ↔ p <:+: stageVerb stage ∨ p <:+: stageArguments stage (stageVerb stage) := by
        rw [stageArguments, isInfix_strip hp hne, hdrop]

end

/-! ### Comments -/

/-- What opens a comment. -/
def commentStart : Text := "/*"

/-- What ends a comment. -/
def commentEnd : Text := "*/"

/-- What stands after the end of the comment that the text begins in. -/
def afterComment : Text → Text
  | '*' :: '/' :: rest => rest
  | _ :: rest => afterComment rest
  | [] => []

/-- The text without its first comment; one that does not end goes on to the
end of the text. -/
def dropComment : Text → Text
  | '/' :: '*' :: rest => afterComment rest
  | c :: rest => c :: dropComment rest
  | [] => []

/-- Nothing stands after a comment exactly when it does not end earlier. -/
theorem afterComment_append_commentEnd (body : Text) :
    afterComment (body ++ commentEnd) = [] ↔ ¬ commentEnd <:+: body := by
  fun_induction afterComment body with
  | case1 rest =>
    have hearly : commentEnd <:+: '*' :: '/' :: rest := ⟨[], rest, rfl⟩
    have hafter : afterComment (.char '*' :: .char '/' :: rest ++ commentEnd) =
        rest ++ commentEnd := rfl
    rw [hafter]
    exact iff_of_false (by simp [commentEnd, ofString]) (not_not_intro hearly)
  | case2 c rest hne ih =>
    have hstep : afterComment (c :: (rest ++ commentEnd)) = afterComment (rest ++ commentEnd) := by
      refine afterComment.eq_2 _ _ fun r hc hr => ?_
      cases rest with
      | nil => cases hr
      | cons d rest =>
        obtain ⟨rfl, -⟩ := List.cons.inj hr
        exact hne rest hc rfl
    have hprefix : ¬ commentEnd <+: c :: rest := by
      rintro ⟨r, hr⟩
      obtain ⟨hc, hr⟩ := List.cons.inj hr
      exact hne r hc.symm hr.symm
    rw [List.cons_append, hstep, ih, List.infix_cons_iff, or_iff_right hprefix]
  | case3 => simp [afterComment, commentEnd, ofString]

theorem dropComment_append_commentStart {operator : Text} (h : ¬ commentStart <:+: operator)
    (rest : Text) :
    dropComment (operator ++ .char ' ' :: (commentStart ++ rest)) =
      operator ++ .char ' ' :: afterComment rest := by
  fun_induction dropComment operator with
  | case1 operator => exact absurd ⟨[], operator, rfl⟩ h
  | case2 c operator hne ih =>
    have hstep : dropComment (c :: (operator ++ .char ' ' :: (commentStart ++ rest))) =
        c :: dropComment (operator ++ .char ' ' :: (commentStart ++ rest)) := by
      refine dropComment.eq_2 _ _ fun r hc hr => ?_
      cases operator with
      | nil => cases hr
      | cons d operator =>
        obtain ⟨rfl, -⟩ := List.cons.inj hr
        exact hne operator hc rfl
    rw [List.cons_append, hstep, ih fun hpart => h (List.infix_cons hpart), List.cons_append]
  | case3 => rfl

/-! ### Stages -/

/-- The operator before the comment, for a stage that is kept as one. -/
def keptOperator? (stage : Text) (equivalent : Doc) : Option Text :=
  match SplCommand.ofVerb (stageVerb stage) with
  | .rex => some "parse"
  | .spath =>
    if (SpathOptions.ofText? (stageArguments stage (stageVerb stage))).isNone then some "extend"
    else none
  | .other => some equivalent.display
  | _ => none

/-- A comment as the rules write it: a text between blanks, with fixed words
before and after it. -/
def commentBody (lead t trail : Text) : Text := lead ++ .char ' ' :: (t ++ .char ' ' :: trail)

theorem isInfix_commentBody (lead t trail : Text) : t <:+: commentBody lead t trail :=
  ⟨lead ++ [.char ' '], .char ' ' :: trail, by simp [commentBody]⟩

/-- The fixed words of a comment do not end it. -/
theorem commentEnd_isInfix_commentBody {lead trail : Text}
    (hlead : hasPart commentEnd lead = false) (htrail : hasPart commentEnd trail = false)
    (t : Text) : commentEnd <:+: commentBody lead t trail ↔ commentEnd <:+: t := by
  have hspace : .char ' ' ∉ commentEnd := by decide
  rw [← Bool.not_eq_true, hasPart_iff_isInfix] at hlead htrail
  rw [commentBody, isInfix_append_cons hspace, isInfix_append_cons hspace, or_iff_right hlead,
    or_iff_left htrail]

theorem strip_isInfix (t : Text) : strip t <:+: t := by
  obtain ⟨b, -, hb⟩ := stripEnd_append_rest (stripStart t)
  have hstart : stripStart t <:+ t := List.dropWhile_suffix isBlank
  exact List.IsInfix.trans ⟨[], b, hb⟩ hstart.isInfix

theorem stageArguments_isInfix (stage verb : Text) : stageArguments stage verb <:+: stage :=
  ((strip_isInfix _).trans (List.drop_suffix _ _).isInfix).trans (strip_isInfix stage)

/-- No name of a command ends a comment, so a stage with one does so in its
arguments. -/
theorem commentEnd_isInfix_stageArguments {stage : Text}
    (hrule : SplCommand.ofVerb (stageVerb stage) ≠ .other) :
    commentEnd <:+: stageArguments stage (stageVerb stage) ↔ commentEnd <:+: stage := by
  have hname : ∀ command : SplCommand, hasPart commentEnd command.name = false := by
    intro command
    cases command <;> decide
  have hverb := hname (SplCommand.ofVerb (stageVerb stage))
  rw [SplCommand.name_ofVerb hrule, ← Bool.not_eq_true, hasPart_iff_isInfix] at hverb
  rw [isInfix_stageArguments (List.all_eq_true.mp rfl) (by decide) stage, or_iff_right hverb]

/-- A stage that is kept is the operator and a comment with the stage in it. -/
theorem exists_comment_commandToKql {stage operator : Text} {equivalent : Doc}
    (h : keptOperator? stage equivalent = some operator) :
    ∃ body, (commandToKql stage (stageVerb stage) equivalent).text =
        operator ++ .char ' ' :: (commentStart ++ (body ++ commentEnd)) ∧
      stageArguments stage (stageVerb stage) <:+: body ∧
      (commentEnd <:+: body ↔ commentEnd <:+: stage) := by
  unfold keptOperator? at h
  unfold commandToKql
  cases hcommand : SplCommand.ofVerb (stageVerb stage) with
  | rex =>
    rw [hcommand] at h
    cases h
    have hrule : SplCommand.ofVerb (stageVerb stage) ≠ .other := by rw [hcommand]; decide
    refine ⟨commentBody [] (stageArguments stage (stageVerb stage))
      "- requires manual regex adjustment ", ?_, isInfix_commentBody _ _ _, ?_⟩
    · simp [rexToKql, commentBody, commentStart, commentEnd, ofString]
    · exact (commentEnd_isInfix_commentBody (by decide) (by decide) _).trans
        (commentEnd_isInfix_stageArguments hrule)
  | spath =>
    simp only [hcommand, Option.ite_none_right_eq_some, Option.isNone_iff_eq_none,
      Option.some.injEq] at h
    obtain ⟨hoptions, rfl⟩ := h
    have hrule : SplCommand.ofVerb (stageVerb stage) ≠ .other := by rw [hcommand]; decide
    refine ⟨commentBody " spath" (stageArguments stage (stageVerb stage))
      "- requires manual adjustment ", ?_, isInfix_commentBody _ _ _, ?_⟩
    · simp [spathToKql, hoptions, commentBody, commentStart, commentEnd, ofString]
    · exact (commentEnd_isInfix_commentBody (by decide) (by decide) _).trans
        (commentEnd_isInfix_stageArguments hrule)
  | other =>
    rw [hcommand] at h
    cases h
    refine ⟨commentBody [] stage [], ?_,
      (stageArguments_isInfix stage _).trans (isInfix_commentBody _ _ _),
      commentEnd_isInfix_commentBody (by decide) (by decide) stage⟩
    simp [genericToKql, commentBody, commentStart, commentEnd, ofString]
  | _ => simp [hcommand] at h

/-- **A stage that is kept as a comment stays in it exactly when it does not
hold the end of a comment.** The text is the operator and a comment with the
arguments of the stage in it; the comment ends early, and taking it out leaves
more than the operator, when the stage holds `*/`. -/
theorem dropComment_stageToKql (commands : VerbTable) (stage operator : Text) (entry : Verb)
    (hentry : commands.find? (stageVerb stage) = some entry)
    (hkept : keptOperator? stage entry.equivalent = some operator) :
    ∃ body, (stageToKql commands stage).text =
        operator ++ .char ' ' :: (commentStart ++ (body ++ commentEnd)) ∧
      stageArguments stage (stageVerb stage) <:+: body ∧
      (commentEnd <:+: body ↔ commentEnd <:+: stage) ∧
      (¬ commentStart <:+: operator →
        (dropComment (stageToKql commands stage).text = operator ++ [.char ' '] ↔
          ¬ commentEnd <:+: stage)) := by
  obtain ⟨body, htext, hargs, hend⟩ := exists_comment_commandToKql hkept
  rw [← stageToKql_of_some hentry] at htext
  refine ⟨body, htext, hargs, hend, fun hoperator => ?_⟩
  rw [htext, dropComment_append_commentStart hoperator, List.append_cancel_left_eq, List.cons.injEq,
    and_iff_right rfl, afterComment_append_commentEnd, hend]

/-- A stage with the end of a comment in its regular expression. -/
def pathRex : Text := "rex field=uri \"^/api/.*/users/(?<id>\\d+)\""

/-- The comment of `pathRex` ends within the expression, and the rest of the
expression is left over. -/
theorem dropComment_stageToKql_pathRex :
    dropComment (stageToKql bundledSpl pathRex).text =
        ofString "parse users/(?<id>\\d+)\" - requires manual regex adjustment */" ∧
      (∃ body, (stageToKql bundledSpl pathRex).text =
          ofString "parse " ++ (commentStart ++ (body ++ commentEnd)) ∧ commentEnd <:+: body) ∧
      dropComment (stageToKql bundledSpl pathRex).text ≠ ofString "parse " := by
  have hpart : commentEnd <:+: pathRex := (hasPart_iff_isInfix _ _).mp (by decide +kernel)
  have hoperator : ¬ commentStart <:+: ofString "parse" := by
    rw [← hasPart_iff_isInfix]
    decide
  obtain ⟨entry, hentry⟩ : ∃ entry, bundledSpl.find? (stageVerb pathRex) = some entry :=
    Option.isSome_iff_exists.mp (by decide +kernel)
  obtain ⟨body, htext, -, hbody, hdrop⟩ :=
    dropComment_stageToKql bundledSpl pathRex "parse" entry hentry (by rfl)
  exact ⟨by decide +kernel, ⟨body, htext, hbody.mpr hpart⟩,
    fun hleft => (hdrop hoperator).mp hleft hpart⟩

end TwinQuery
