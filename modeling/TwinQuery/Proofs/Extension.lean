/-
# Queries that go on

What is written after a pipe at the end of a query adds stages and leaves the
rest alone. The lines are joined across the seam, but a pipe is no blank, so
the pieces on its two sides are stripped apart from each other
(`Pipeline.ofQuery_append_pipe`). Hence both conversions are compositional:
the longer query is converted to what the query itself is converted to,
followed by the conversion of what was added (`conversions_append_pipe`). To
KQL that depends on the added text alone; to SPL also on whether a command
came before, since a `where` filters the search only until then.

The validations of a longer text find at least as much. They go by the first
words of the pieces, and a text that begins with a blank or a pipe
(`Text.StandsApart`) does not reach into the last of these words: it can only
add further ones (`verbsOf_cutAt_sublist`). This is needed of the outcomes
too, where a `where` is appended to the last command without a pipe.

Key definitions: `Pipeline.stagesAfterPipe`, `tailToKql`, `tailToSpl`,
`hasCommand`, `Text.StandsApart`.
Key theorems: `Pipeline.ofQuery_append_pipe`, `queryToKql_append_pipe`,
`queryToSpl_append_pipe`, `conversions_append_pipe`,
`verbsOf_cutAt_sublist`, `kqlErrors_append`.
-/
import TwinQuery.Proofs.RoundTrip
import TwinQuery.Proofs.UnknownVerbs

namespace TwinQuery

open Text

/-! ### Stages after a pipe -/

namespace Pipeline

/-- The stages of a text that stands after a pipe. -/
def stagesAfterPipe (rest : Text) : List Text :=
  ((cutAt pipe rest).map joinLines).filter fun stage => !stage.isEmpty

/-- **What stands after a pipe adds stages**, and does not change the head
and the stages before it. -/
theorem ofQuery_append_pipe (query rest : Text) :
    ofQuery (query ++ pipe :: rest) =
      ⟨(ofQuery query).head, (ofQuery query).stages ++ stagesAfterPipe rest⟩ := by
  obtain ⟨piece, pieces, hcut⟩ := List.exists_cons_of_ne_nil (cutAt_ne_nil pipe query)
  have hlonger : cutAt pipe (query ++ pipe :: rest) = piece :: (pieces ++ cutAt pipe rest) := by
    rw [cutAt_append_mark, hcut, List.cons_append]
  rw [ofQuery_of_cutAt hlonger, ofQuery_of_cutAt hcut, List.map_append, List.filter_append]
  rfl

end Pipeline

/-! ### The conversions -/

/-- The KQL of a text that stands after a pipe. -/
def tailToKql (commands : VerbTable) (rest : Text) : Fragment :=
  Fragment.concat ((Pipeline.stagesAfterPipe rest).map (stageLineToKql commands))

theorem queryToKql_append_pipe (commands : VerbTable) (query rest : Text) :
    queryToKql commands (query ++ pipe :: rest) =
      queryToKql commands query ++ tailToKql commands rest := by
  unfold queryToKql tailToKql
  simp only [Pipeline.ofQuery_append_pipe, List.map_append]
  rw [Fragment.concat_append, Fragment.append_assoc]

/-- Whether a query has a stage other than `where`. -/
def hasCommand (query : Text) : Bool :=
  (Pipeline.ofQuery query).stages.any fun stage => stageVerb stage != "where"

/-- The SPL of a text that stands after a pipe; `afterCommand` says whether a
stage other than `where` comes before it. -/
def tailToSpl (afterCommand : Bool) (rest : Text) : Fragment :=
  stagesToSpl (!afterCommand) (Pipeline.stagesAfterPipe rest)

theorem all_isFilterStage (query : Text) :
    (Pipeline.ofQuery query).stages.all isFilterStage = !hasCommand query := by
  unfold hasCommand
  rw [List.not_any_eq_all_not]
  congr 1
  funext stage
  rw [isFilterStage_eq, Bool.eq_iff_iff]
  simp

/-- The SPL of a longer query, also when its table cannot be resolved. -/
theorem queryToSpl_append_pipe (m : TableMapping) (query rest : Text) :
    queryToSpl m (query ++ pipe :: rest) =
      (queryToSpl m query).map (· ++ tailToSpl (hasCommand query) rest) := by
  unfold queryToSpl tailToSpl
  simp only [Pipeline.ofQuery_append_pipe, stagesToSpl_append, all_isFilterStage, Bool.true_and]
  cases tableToSpl m (Pipeline.ofQuery query).head with
  | error fault => rfl
  | ok search => exact congrArg Except.ok (Fragment.append_assoc _ _ _).symm

/-- **Conversions are compositional.** The conversion of a query that goes on
after a pipe is the conversion of the query followed by a text and notes. To
KQL these depend only on the vocabulary and on what is added. To SPL, when the
table of the query is resolved, they depend only on what is added and on
whether the query has a stage other than `where`. -/
theorem conversions_append_pipe :
    (∀ (commands : VerbTable) (query rest : Text),
      (queryToKql commands (query ++ pipe :: rest)).text =
          (queryToKql commands query).text ++ (tailToKql commands rest).text ∧
        (queryToKql commands (query ++ pipe :: rest)).notes =
          (queryToKql commands query).notes ++ (tailToKql commands rest).notes) ∧
      ∀ (m : TableMapping) (query rest : Text) (place : Entry × Bool),
        m.resolve (Pipeline.ofQuery query).head = .ok place →
        ∃ spl longer : Fragment,
          queryToSpl m query = .ok spl ∧ queryToSpl m (query ++ pipe :: rest) = .ok longer ∧
          longer.text = spl.text ++ (tailToSpl (hasCommand query) rest).text ∧
          longer.notes = spl.notes ++ (tailToSpl (hasCommand query) rest).notes := by
  constructor
  · intro commands query rest
    rw [queryToKql_append_pipe]
    exact ⟨rfl, rfl⟩
  · intro m query rest place hresolve
    obtain ⟨search, hsearch, -, -⟩ := tableToSpl_of_resolve hresolve
    have hquery := queryToSpl_of_tableToSpl hsearch
    have hlonger := queryToSpl_append_pipe m query rest
    rw [hquery] at hlonger
    exact ⟨_, _, hquery, hlonger, rfl, rfl⟩

/-- A late `where` in what is added, with line breaks and blanks around the
pipe between the two parts. -/
theorem conversions_append_pipe_late :
    TableMapping.defaults.resolve
        (Pipeline.ofQuery "SecurityEvent | where a == 1\n| limit 5 \n ").head =
      .ok (⟨"windows", some "WinEventLog:Security", "Common for Windows Security events"⟩, false) ∧
    ∃ spl longer : Fragment,
      queryToSpl .defaults "SecurityEvent | where a == 1\n| limit 5 \n " = .ok spl ∧
      queryToSpl .defaults "SecurityEvent | where a == 1\n| limit 5 \n |\n  where b == 2 || " =
        .ok longer ∧
      longer.text = spl.text ++ " b = 2" ∧ longer.notes = spl.notes ++ [lateFilterNote] := by
  have hresolve : TableMapping.defaults.resolve
      (Pipeline.ofQuery "SecurityEvent | where a == 1\n| limit 5 \n ").head =
    .ok (⟨"windows", some "WinEventLog:Security", "Common for Windows Security events"⟩, false) := rfl
  have htail : tailToSpl true "\n  where b == 2 || " = ⟨" b = 2", [lateFilterNote]⟩ := by decide
  have hcommand : hasCommand "SecurityEvent | where a == 1\n| limit 5 \n " = true := by decide
  obtain ⟨spl, longer, hspl, hlonger, htext, hnotes⟩ := conversions_append_pipe.2 .defaults
    "SecurityEvent | where a == 1\n| limit 5 \n " "\n  where b == 2 || " _ hresolve
  rw [hcommand, htail] at htext hnotes
  exact ⟨hresolve, spl, longer, hspl, hlonger, htext, hnotes⟩

/-! ### How what is added begins -/

/-- The KQL of what is added begins with a line break. -/
theorem opensBlank_tailToKql (commands : VerbTable) (rest : Text) :
    OpensBlank (tailToKql commands rest).text := by
  unfold tailToKql
  cases Pipeline.stagesAfterPipe rest with
  | nil => exact OpensBlank.of_blank (by simp [Fragment.concat])
  | cons stage stages => exact opensBlank_cons (c := '\n') rfl _

/-- The SPL of what is added begins with a blank, also when a `where` comes
first. -/
theorem opensBlank_stagesToSpl (inline : Bool) {stages : List Text}
    (hstages : ∀ stage ∈ stages, stage.IsPiece) : OpensBlank (stagesToSpl inline stages).text := by
  cases stages with
  | nil => exact OpensBlank.of_blank (by simp [stagesToSpl])
  | cons stage stages =>
    have htext : (stagesToSpl inline (stage :: stages)).text =
        (operatorToSpl stage (stageVerb stage) inline).text ++
          (stagesToSpl (inline && isFilterStage stage) stages).text := rfl
    rw [htext]
    by_cases hwhere : stageVerb stage = "where"
    · rw [operatorToSpl_of_filter hwhere]
      exact opensBlank_cons (c := ' ') rfl _
    · obtain ⟨hpiped, -, -⟩ :=
        operatorToSpl_of_ne_filter (hstages stage List.mem_cons_self) hwhere inline
      rw [hpiped]
      exact opensBlank_cons (c := ' ') rfl _

theorem opensBlank_tailToSpl (afterCommand : Bool) (rest : Text) :
    OpensBlank (tailToSpl afterCommand rest).text := by
  have hcanonical := Pipeline.isCanonical_ofQuery ([] ++ pipe :: rest)
  rw [Pipeline.ofQuery_append_pipe] at hcanonical
  exact opensBlank_stagesToSpl _ fun stage hs =>
    hcanonical.isPiece_stage stage (List.mem_append_right _ hs)

/-! ### First words in a longer text -/

/-- A text that leaves the last word before it alone: it is empty, or begins
with a blank or a pipe. -/
def Text.StandsApart (u : Text) : Prop := ∀ c ∈ u.head?, isBlank c ∨ c = pipe

theorem Text.OpensBlank.standsApart {u : Text} (h : OpensBlank u) : StandsApart u :=
  fun c hc => Or.inl (h c hc)

theorem Text.standsApart_pipe (u : Text) : StandsApart (pipe :: u) := by
  rintro c ⟨⟩
  exact Or.inr rfl

theorem verbsOf_append (xs ys : List Text) : verbsOf (xs ++ ys) = verbsOf xs ++ verbsOf ys := by
  simp [verbsOf]

/-- A text without the mark goes before the first piece. -/
theorem Text.cutAt_append_of_not_mem {mark : CodePoint} {u piece : Text} {pieces : List Text}
    (hu : cutAt mark u = piece :: pieces) : ∀ {t : Text}, mark ∉ t →
      cutAt mark (t ++ u) = (t ++ piece) :: pieces
  | [], _ => hu
  | c :: t, ht => by
    have hc : c ≠ mark := fun hc => ht (hc ▸ List.mem_cons_self)
    exact cutAt_cons_of_ne hc (cutAt_append_of_not_mem hu fun hm => ht (List.mem_cons_of_mem _ hm))

/-- What follows a piece after a blank does not take its verb away. -/
theorem verbsOf_singleton_sublist {t b : Text} (hb : OpensBlank b) (pieces : List Text) :
    (verbsOf [t]).Sublist (verbsOf ((t ++ b) :: pieces)) := by
  by_cases ht : strip t = []
  · rw [verbsOf_cons_of_blank ht]
    exact List.nil_sublist _
  · have hlonger : strip (t ++ b) ≠ [] := by
      intro h
      rw [strip_eq_nil_iff] at h
      exact ht ((strip_eq_nil_iff t).mpr fun c hc => h c (List.mem_append_left _ hc))
    rw [verbsOf_cons ht, verbsOf_cons hlonger, stageVerb_append_blank ht hb]
    exact (List.nil_sublist _).cons_cons _

/-- **A longer text has the verbs of the text it begins with.** -/
theorem verbsOf_cutAt_sublist {u : Text} (hu : StandsApart u) (t : Text) :
    (verbsOf (cutAt pipe t)).Sublist (verbsOf (cutAt pipe (t ++ u))) := by
  induction t using cutInduction (· == pipe) with
  | whole t ht =>
    have hfree : pipe ∉ t := fun hm => by simpa using ht pipe hm
    cases u with
    | nil => simp
    | cons c u =>
      rw [cutAt_of_not_mem hfree]
      rcases hu c rfl with hc | rfl
      · -- the last piece goes on, after a blank
        have hne : c ≠ pipe := by rintro rfl; cases hc
        obtain ⟨piece, pieces, hcut⟩ := List.exists_cons_of_ne_nil (cutAt_ne_nil pipe u)
        rw [cutAt_append_of_not_mem (cutAt_cons_of_ne hne hcut) hfree]
        exact verbsOf_singleton_sublist (opensBlank_cons hc piece) pieces
      · rw [cutAt_append_mark, verbsOf_append, cutAt_of_not_mem hfree]
        exact List.sublist_append_left _ _
  | cut a c b ha hc ih =>
    obtain rfl : c = pipe := by simpa using hc
    rw [List.append_assoc, List.cons_append, cutAt_append_mark, cutAt_append_mark, verbsOf_append,
      verbsOf_append]
    exact (List.Sublist.refl _).append ih

/-- The same for the pieces after the first pipe. -/
theorem verbsOf_drop_cutAt_sublist {t u : Text} (ht : pipe ∈ t) (hu : StandsApart u) :
    (verbsOf ((cutAt pipe t).drop 1)).Sublist (verbsOf ((cutAt pipe (t ++ u)).drop 1)) := by
  obtain ⟨a, b, rfl, ha⟩ := List.eq_append_cons_of_mem ht
  rw [List.append_assoc, List.cons_append, cutAt_append_mark, cutAt_append_mark,
    cutAt_of_not_mem ha]
  exact verbsOf_cutAt_sublist hu b

/-- The first character of a text that is not blank. -/
theorem Text.exists_first_ink {t : Text} (ht : strip t ≠ []) :
    ∃ a c b, (∀ d ∈ a, isBlank d) ∧ isInk c ∧ t = a ++ c :: b := by
  have hsplit : t.takeWhile isBlank ++ stripStart t = t := List.takeWhile_append_dropWhile
  have hblank : ∀ d ∈ t.takeWhile isBlank, isBlank d := List.all_eq_true.mp List.all_takeWhile
  cases hstart : stripStart t with
  | nil =>
    rw [← strip_stripStart, hstart] at ht
    exact absurd rfl ht
  | cons c b =>
    have hhead := List.head?_dropWhile_not isBlank t
    rw [show (t.dropWhile isBlank).head? = some c from congrArg List.head? hstart] at hhead
    refine ⟨t.takeWhile isBlank, c, b, hblank, by simpa [isInk] using hhead, ?_⟩
    rw [← hstart, hsplit]

/-- What follows a text that is not blank does not change how a query
begins. -/
theorem kqlErrors_append {t : Text} (ht : strip t ≠ []) (u : Text) :
    kqlErrors (t ++ u) = kqlErrors t := by
  obtain ⟨a, c, b, ha, hc, rfl⟩ := exists_first_ink ht
  rw [List.append_assoc, List.cons_append, kqlErrors_of_ink ha hc, kqlErrors_of_ink ha hc]

end TwinQuery
