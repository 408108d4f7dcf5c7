/-
# Stages that both languages can say

Some stages can be said in either language: to aggregate, to compute a field,
to limit, deduplicate or expand the rows, to keep or drop fields, to sort by
one field and to rename one. `SharedStage` is the type of these stages, with
the operands as they are written, and `spl` and `kql` are its two spellings.
The rules of the two directions take one spelling to the other, whatever the
operands are (`SharedStage.stageToKql_spl`, `SharedStage.operatorToSpl_kql`).

An operand is any text that is not empty, is stripped and holds no pipe and no
line break; a name has no blanks either. Names that look like keywords or
signs (`as`, `by`, `=`, `-x`) do no harm, since the rules find the words they
look for by their place.

Key definitions: `Operand`, `Name`, `SharedStage`, `SharedStage.spl`,
`SharedStage.kql`.
Key theorems: `stageVerb_append`, `stageArguments_append`,
`SharedStage.stageToKql_spl`, `SharedStage.operatorToSpl_kql`.
-/
import TwinQuery.Conversion.ToSpl
import TwinQuery.Proofs.PipelineToKql
import TwinQuery.Proofs.Words

namespace TwinQuery

open Text

/-! ### Names and operands -/

/-- A text that can be a name: not empty, without blanks and pipes. -/
def Text.IsName (t : Text) : Prop := t ≠ [] ∧ ∀ c ∈ t, isInk c ∧ c ≠ pipe

instance (t : Text) : Decidable t.IsName :=
  @instDecidableAnd _ _ inferInstance (List.decidableBAll _ t)

/-- A text that can be the arguments of a stage: not empty, stripped, without
pipes and line breaks. -/
def Text.IsOperand (t : Text) : Prop := t ≠ [] ∧ strip t = t ∧ t.IsPiece

instance (t : Text) : Decidable t.IsOperand := inferInstanceAs (Decidable (_ ∧ _ ∧ _))

theorem Text.IsName.ink {t : Text} (h : t.IsName) : ∀ c ∈ t, isInk c := fun c hc => (h.2 c hc).1

theorem Text.IsName.isOperand {t : Text} (h : t.IsName) : t.IsOperand := by
  refine ⟨h.1, strip_of_ink h.ink, fun c hc => ?_⟩
  exact ⟨(h.2 c hc).2, isLineBreak_of_isInk (h.ink c hc)⟩

theorem Text.IsName.words_eq {t : Text} (h : t.IsName) : words t = [t] := by
  cases t with
  | nil => exact absurd rfl h.1
  | cons c t => exact words_of_ink h.ink

theorem Text.IsOperand.strip_ne_nil {t : Text} (h : t.IsOperand) : strip t ≠ [] :=
  h.2.1.symm ▸ h.1

theorem Text.IsOperand.append {a b : Text} (ha : a.IsOperand) (hb : b.IsOperand) {m : Text}
    (hm : m.IsPiece) : IsOperand (a ++ m ++ b) := by
  refine ⟨by simp [ha.1], ?_, (ha.2.2.append hm).append hb.2.2⟩
  rw [List.append_assoc, strip_append_append ha.strip_ne_nil hb.strip_ne_nil,
    stripStart_of_stripped ha.2.1, stripEnd_of_stripped hb.2.1]

/-- A text that begins with a character that is not blank can stand before an
operand. -/
theorem Text.IsOperand.append_left {b : Text} (hb : b.IsOperand) {m : Text} (hm : m.IsStage)
    (hstart : stripStart m = m) : IsOperand (m ++ b) := by
  refine ⟨by simp [hb.1], ?_, hm.1.append hb.2.2⟩
  have h := strip_append_append hm.2 hb.strip_ne_nil []
  rwa [hstart, stripEnd_of_stripped hb.2.1] at h

theorem Text.IsOperand.isStage {t : Text} (h : t.IsOperand) : t.IsStage :=
  ⟨h.2.2, h.strip_ne_nil⟩

/-- Arguments of a stage. -/
abbrev Operand := { t : Text // t.IsOperand }

/-- A single word of the arguments of a stage. -/
abbrev Name := { t : Text // t.IsName }

/-! ### A verb and its arguments -/

section

variable {verb args : Text} (hverb : verb.IsName) (hargs : args.IsOperand)

include hverb hargs

theorem isOperand_stage : IsOperand (verb ++ .char ' ' :: args) := by
  rw [List.append_cons]
  exact hverb.isOperand.append hargs (by decide)

theorem stageVerb_append : stageVerb (verb ++ .char ' ' :: args) = verb := by
  unfold stageVerb
  rw [(isOperand_stage hverb hargs).2.1, List.takeWhile_append_of_pos hverb.ink]
  exact List.append_nil verb

theorem stageArguments_append : stageArguments (verb ++ .char ' ' :: args) verb = args := by
  unfold stageArguments
  rw [(isOperand_stage hverb hargs).2.1, List.drop_left, strip_cons_blank rfl, hargs.2.1]

end

/-! ### The two spellings -/

/-- A stage that can be said in either language. -/
inductive SharedStage where
  | aggregate (a : Operand)
  | compute (a : Operand)
  | limit (a : Operand)
  | deduplicate (a : Operand)
  | expand (a : Operand)
  | keep (a : Operand) (unsigned : a.val.head? ≠ some (.char '+') ∧ a.val.head? ≠ some (.char '-'))
  | drop (a : Operand)
  | sort (direction : Direction) (field : Name)
  | rename (old new : Name)

namespace SharedStage

/-- The sign of a direction in SPL. -/
def sign : Direction → CodePoint
  | .ascending => '+'
  | .descending => '-'

/-- The stage in SPL. -/
def spl : SharedStage → Text
  | aggregate a => "stats " ++ a.val
  | compute a => "eval " ++ a.val
  | limit a => "head " ++ a.val
  | deduplicate a => "dedup " ++ a.val
  | expand a => "mvexpand " ++ a.val
  | keep a _ => "fields " ++ a.val
  | drop a => "fields - " ++ a.val
  | sort direction field => "sort " ++ sign direction :: field.val
  | rename old new => "rename " ++ old.val ++ " as " ++ new.val

/-- The stage in KQL. -/
def kql : SharedStage → Text
  | aggregate a => "summarize " ++ a.val
  | compute a => "extend " ++ a.val
  | limit a => "take " ++ a.val
  | deduplicate a => "distinct " ++ a.val
  | expand a => "mv-expand " ++ a.val
  | keep a _ => "project " ++ a.val
  | drop a => "project-away " ++ a.val
  | sort direction field => "order by " ++ field.val ++ " " ++ direction.name
  | rename old new => "project-rename " ++ new.val ++ " = " ++ old.val

theorem isName_sign (direction : Direction) {field : Text} (h : field.IsName) :
    IsName (sign direction :: field) := by
  refine ⟨List.cons_ne_nil _ _, List.forall_mem_cons.mpr ⟨?_, h.2⟩⟩
  cases direction <;> decide

theorem isName_direction (direction : Direction) : direction.name.IsName := by
  cases direction <;> decide

theorem isOperand_spl : ∀ s : SharedStage, s.spl.IsOperand
  | aggregate a | compute a | limit a | deduplicate a | expand a | keep a _ | drop a =>
    a.2.append_left (by decide) (by decide)
  | sort direction field =>
    (isName_sign direction field.2).isOperand.append_left (by decide) (by decide)
  | rename old new =>
    (old.2.isOperand.append_left (by decide) (by decide)).append new.2.isOperand (by decide)

theorem isOperand_kql : ∀ s : SharedStage, s.kql.IsOperand
  | aggregate a | compute a | limit a | deduplicate a | expand a | keep a _ | drop a =>
    a.2.append_left (by decide) (by decide)
  | sort direction field =>
    (field.2.isOperand.append_left (by decide) (by decide)).append
      (isName_direction direction).isOperand (by decide)
  | rename old new =>
    (new.2.isOperand.append_left (by decide) (by decide)).append old.2.isOperand (by decide)

end SharedStage

/-! ### From SPL to KQL -/

/-- The KQL of a stage with a known command, by the rule of that command. -/
theorem stageToKql_append (rule : Text → Text) {verb args : Text} (hverb : verb.IsName)
    (hargs : args.IsOperand) (hknown : (bundledSpl.find? verb).isSome)
    (hrule : ∀ stage equivalent,
      commandToKql stage verb equivalent = .plain (rule (stageArguments stage verb))) :
    stageToKql bundledSpl (verb ++ .char ' ' :: args) = .plain (rule args) := by
  obtain ⟨entry, hentry⟩ := Option.isSome_iff_exists.mp hknown
  have hverb' := stageVerb_append hverb hargs
  have hstage := stageToKql_of_some (hverb'.symm ▸ hentry)
  rw [hstage, hverb', hrule, stageArguments_append hverb hargs]

theorem fieldsToKql_of_unsigned {args : Text}
    (h : args.head? ≠ some (.char '+') ∧ args.head? ≠ some (.char '-')) :
    fieldsToKql args = "project " ++ args := by
  unfold fieldsToKql
  split
  · exact absurd rfl h.1
  · exact absurd rfl h.2
  · rfl

theorem fieldsToKql_minus {args : Text} (h : args.IsOperand) :
    fieldsToKql ("- " ++ args) = "project-away " ++ args :=
  congrArg (("project-away " : Text) ++ ·) ((strip_cons_blank (c := ' ') rfl args).trans h.2.1)

/-- A sign before a word gives the direction of the field. -/
theorem sortKey?_of_sign (direction : Direction) {t : Text} (h : firstWord t ≠ []) :
    sortKey? (SharedStage.sign direction :: t) = some (firstWord t, direction) := by
  obtain ⟨c, word, hword⟩ := List.exists_cons_of_ne_nil h
  have htake : t.takeWhile isInk = c :: word := hword
  rw [hword]
  simp only [sortKey?, htake]
  cases direction <;> rfl

theorem sortKey?_sign (direction : Direction) {field : Text} (h : field.IsName) :
    sortKey? (SharedStage.sign direction :: field) = some (field, direction) := by
  have hword := firstWord_of_ink h.ink
  have hkey := sortKey?_of_sign direction (t := field) (by rw [hword]; exact h.1)
  rwa [hword] at hkey

theorem words_of_names {a b c : Text} (ha : a.IsName) (hb : b.IsName) (hc : c.IsName) :
    words (a ++ .char ' ' :: (b ++ .char ' ' :: c)) = [a, b, c] := by
  rw [words_append_blank rfl, words_append_blank rfl, ha.words_eq, hb.words_eq, hc.words_eq]
  rfl

theorem renamePair?_names {old new : Text} (hold : old.IsName) (hnew : new.IsName) :
    renamePair? (old ++ " as " ++ new) = some (old, new) := by
  unfold renamePair?
  rw [List.append_assoc]
  exact congrArg renamePairIn (words_of_names hold (by decide : IsName "as") hnew)

namespace SharedStage

/-- The rules for SPL take the SPL spelling to the KQL spelling. -/
theorem stageToKql_spl : ∀ s : SharedStage, stageToKql bundledSpl s.spl = .plain s.kql
  | aggregate a => stageToKql_append (("summarize " : Text) ++ ·) (by decide : IsName "stats") a.2
      (by decide) fun _ _ => rfl
  | compute a => stageToKql_append (("extend " : Text) ++ ·) (by decide : IsName "eval") a.2
      (by decide) fun _ _ => rfl
  | limit a => stageToKql_append (("take " : Text) ++ ·) (by decide : IsName "head") a.2
      (by decide) fun _ _ => rfl
  | deduplicate a => stageToKql_append (("distinct " : Text) ++ ·) (by decide : IsName "dedup") a.2
      (by decide) fun _ _ => rfl
  | expand a => stageToKql_append (("mv-expand " : Text) ++ ·) (by decide : IsName "mvexpand") a.2
      (by decide) fun _ _ => rfl
  | keep a unsigned => by
    have h := stageToKql_append fieldsToKql (by decide : IsName "fields") a.2 (by decide)
      fun _ _ => rfl
    rwa [fieldsToKql_of_unsigned unsigned] at h
  | drop a => by
    have h := stageToKql_append fieldsToKql (by decide : IsName "fields")
      (isOperand_stage (by decide : IsName "-") a.2) (by decide) fun _ _ => rfl
    exact h.trans (congrArg Fragment.plain (fieldsToKql_minus a.2))
  | sort direction field => by
    have h := stageToKql_append sortToKql (by decide : IsName "sort")
      (isName_sign direction field.2).isOperand (by decide) fun _ _ => rfl
    rw [sortToKql, sortKey?_sign direction field.2] at h
    exact h
  | rename old new => by
    have h := stageToKql_append renameToKql (by decide : IsName "rename")
      (old.2.isOperand.append new.2.isOperand (by decide : IsPiece " as ")) (by decide) fun _ _ => rfl
    rw [renameToKql, renamePair?_names old.2 new.2] at h
    exact h

end SharedStage

/-! ### From KQL to SPL -/

/-- The SPL of a stage with a known operator, by the rule of that operator. -/
theorem operatorToSpl_append (rule : Text → Text) {verb args : Text} (hverb : verb.IsName)
    (hargs : args.IsOperand)
    (hrule : ∀ stage inline,
      operatorToSpl stage verb inline = .plain (rule (stageArguments stage verb))) (inline : Bool) :
    operatorToSpl (verb ++ .char ' ' :: args) (stageVerb (verb ++ .char ' ' :: args)) inline =
      .plain (rule args) := by
  rw [stageVerb_append hverb hargs, hrule, stageArguments_append hverb hargs]

theorem directionOf?_name (direction : Direction) :
    directionOf? direction.name = some direction := by
  cases direction <;> rfl

theorem orderKey?_names (direction : Direction) {field : Text} (h : field.IsName) :
    orderKey? ("by " ++ field ++ " " ++ direction.name) = some (field, some direction) := by
  have hwords := words_of_names (by decide : IsName "by") h (SharedStage.isName_direction direction)
  unfold orderKey?
  rw [List.append_assoc]
  refine (congrArg orderKeyIn hwords).trans ?_
  exact congrArg (fun d => some (field, d)) (directionOf?_name direction)

theorem orderToSpl_names (direction : Direction) {field : Text} (h : field.IsName) :
    orderToSpl ("by " ++ field ++ " " ++ direction.name) =
      " | sort " ++ SharedStage.sign direction :: field := by
  unfold orderToSpl
  rw [orderKey?_names direction h]
  cases direction <;> rfl

theorem projectRenamePair?_names {new old : Text} (hnew : new.IsName) (hold : old.IsName) :
    projectRenamePair? (new ++ " = " ++ old) = some (new, old) := by
  unfold projectRenamePair?
  rw [List.append_assoc]
  exact congrArg projectRenameIn (words_of_names hnew (by decide : IsName "=") hold)

namespace SharedStage

/-- The rules for KQL take the KQL spelling to the SPL spelling. -/
theorem operatorToSpl_kql (inline : Bool) :
    ∀ s : SharedStage, operatorToSpl s.kql (stageVerb s.kql) inline = .plain (" | " ++ s.spl)
  | aggregate a => operatorToSpl_append ((" | stats " : Text) ++ ·) (by decide : IsName "summarize")
      a.2 (fun _ _ => rfl) inline
  | compute a => operatorToSpl_append ((" | eval " : Text) ++ ·) (by decide : IsName "extend")
      a.2 (fun _ _ => rfl) inline
  | limit a => operatorToSpl_append ((" | head " : Text) ++ ·) (by decide : IsName "take")
      a.2 (fun _ _ => rfl) inline
  | deduplicate a => operatorToSpl_append ((" | dedup " : Text) ++ ·) (by decide : IsName "distinct")
      a.2 (fun _ _ => rfl) inline
  | expand a => operatorToSpl_append ((" | mvexpand " : Text) ++ ·) (by decide : IsName "mv-expand")
      a.2 (fun _ _ => rfl) inline
  | keep a _ => operatorToSpl_append ((" | fields " : Text) ++ ·) (by decide : IsName "project")
      a.2 (fun _ _ => rfl) inline
  | drop a => operatorToSpl_append ((" | fields - " : Text) ++ ·) (by decide : IsName "project-away")
      a.2 (fun _ _ => rfl) inline
  | sort direction field => by
    have hkey := field.2.isOperand.append (isName_direction direction).isOperand
      (by decide : IsPiece " ")
    have h := operatorToSpl_append orderToSpl (by decide : IsName "order")
      (isOperand_stage (by decide : IsName "by") hkey) (fun _ _ => rfl) inline
    exact h.trans (congrArg Fragment.plain (orderToSpl_names direction field.2))
  | rename old new => by
    have h := operatorToSpl_append projectRenameToSpl (by decide : IsName "project-rename")
      (new.2.isOperand.append old.2.isOperand (by decide : IsPiece " = ")) (fun _ _ => rfl) inline
    rw [projectRenameToSpl, projectRenamePair?_names new.2 old.2] at h
    exact h

end SharedStage

end TwinQuery
