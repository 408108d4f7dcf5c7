/-
# Stages that list their operands

A stage that lists keys or pairs of names is converted by the lead of its
listing. Every field of the lead is kept, and nothing else is: the conversion
is known from the lead and from the characters that follow it in the same word
(`ListedStage.convert_eq_plain_leadText`). The items after the lead are
dropped, and no note says so. The one thing that can come from behind the
lead is a direction, since a key of `order by` without one takes it from the
start of the next word.

Key definitions: `ListedStage`, `ListedStage.leadFields`,
`ListedStage.leadText`.
Key theorems: `ListedStage.rule_arguments`, `ListedStage.isInfix_leadText`,
`ListedStage.convert_eq_plain_leadText`.
-/
import TwinQuery.Proofs.Listing

namespace TwinQuery

open Text

theorem isInfix_between (a b c d : Text) : b <:+: a ++ b ++ c ++ d :=
  (List.infix_append a b c).trans (List.prefix_append _ d).isInfix

/-- One blank. -/
def oneBlank : Space := ⟨" ", by decide⟩

/-- A stage that lists its operands: `sort` and `rename` of SPL, and `order by`
(under either of its names) and `project-rename` of KQL. -/
inductive ListedStage where
  | sort (keys : Listing SortKey)
  | rename (pairs : Listing RenamePair)
  | order (operator : { t : Text // KqlOperator.ofVerb t = .order }) (space : Space)
      (keys : Listing OrderKey)
  | projectRename (pairs : Listing ProjectRenamePair)

namespace ListedStage

/-- The command or operator of a stage. -/
def verb : ListedStage → Text
  | sort _ => "sort"
  | rename _ => "rename"
  | order operator _ _ => operator.val
  | projectRename _ => "project-rename"

/-- The arguments of a stage, as they are written. -/
def arguments : ListedStage → Text
  | sort keys => keys.text SortKey.spell
  | rename pairs => pairs.text RenamePair.spell
  | order _ space keys => "by" ++ (space.val ++ keys.text OrderKey.spell)
  | projectRename pairs => pairs.text ProjectRenamePair.spell

/-- The conversion of a text as a stage with this command or operator. -/
def convert (s : ListedStage) (stage : Text) (equivalent : Doc) (inline : Bool) : Fragment :=
  match s with
  | sort _ | rename _ => commandToKql stage s.verb equivalent
  | order _ _ _ | projectRename _ => operatorToSpl stage s.verb inline

/-- The fields that a stage lists. -/
def fields : ListedStage → List Text
  | sort keys => keys.items.map fun key => key.field.val
  | rename pairs => pairs.items.flatMap fun pair => [pair.old.val, pair.new.val]
  | order _ _ keys => keys.items.map fun key => key.field.val
  | projectRename pairs => pairs.items.flatMap fun pair => [pair.new.val, pair.old.val]

/-- The fields of the lead. -/
def leadFields : ListedStage → List Text
  | sort keys => (keys.lead SortKey.spell).map fun key => key.field.val
  | rename pairs => (pairs.lead RenamePair.spell).flatMap fun pair => [pair.old.val, pair.new.val]
  | order _ _ keys => (keys.lead OrderKey.spell).map fun key => key.field.val
  | projectRename pairs =>
    (pairs.lead ProjectRenamePair.spell).flatMap fun pair => [pair.new.val, pair.old.val]

/-- What is left of a stage: the lead, with what follows it in the same
word. -/
def leadText : ListedStage → Text
  | sort keys =>
    "order by " ++ (keys.first.field.val ++ firstWord (tailText SortKey.spell keys.more)) ++ " " ++
      keys.first.direction.name
  | rename pairs =>
    "project-rename " ++
      (pairs.first.new.val ++ firstWord (tailText RenamePair.spell pairs.more)) ++ " = " ++
      pairs.first.old.val
  | order _ _ keys =>
    let rest := tailText OrderKey.spell keys.more
    " | sort " ++ SharedStage.sign ((keys.first.directionIn rest).getD .ascending) ::
      keys.first.wordIn rest
  | projectRename pairs =>
    let names := ProjectRenamePair.readFrom [] pairs.first pairs.more
    " | rename " ++ names.2 ++ " as " ++ names.1

/-- The rule for the arguments of a stage. -/
def rule : ListedStage → Text → Text
  | sort _ => sortToKql
  | rename _ => renameToKql
  | order _ _ _ => orderToSpl
  | projectRename _ => projectRenameToSpl

theorem convert_eq_plain_rule (stage : Text) (equivalent : Doc) (inline : Bool) :
    ∀ s : ListedStage,
      s.convert stage equivalent inline = .plain (s.rule (stageArguments stage s.verb))
  | sort _ | rename _ | projectRename _ => rfl
  | order operator _ _ => by simp only [convert, verb, rule, operatorToSpl, operator.2]

/-- The rule of a stage reads the lead of its arguments. -/
theorem rule_arguments : ∀ s : ListedStage, s.rule s.arguments = s.leadText
  | sort keys => by
    have hkey := sortKey?_listing keys.first (tailText SortKey.spell keys.more)
    rw [rule, arguments, Listing.text, sortToKql, hkey]
    rfl
  | rename pairs => by
    have hpair := renamePair?_listing pairs.first (tailText RenamePair.spell pairs.more)
    rw [rule, arguments, Listing.text, renameToKql, hpair]
    rfl
  | order _ space keys => by
    have hkey := orderKey?_listing keys.first space (tailText OrderKey.spell keys.more)
    rw [rule, arguments, Listing.text, orderToSpl, hkey, leadText]
    generalize keys.first.directionIn _ = direction
    rcases direction with _ | _ | _ <;> rfl
  | projectRename pairs => by
    have hink : ∀ c ∈ ([] : Text), isInk c := by simp
    have hpair : projectRenamePair? (pairs.text ProjectRenamePair.spell) = _ :=
      projectRenameIn_listing hink pairs.first pairs.more
    rw [rule, arguments, projectRenameToSpl, hpair]
    rfl

/-- The fields of the lead stand in what is left. -/
theorem isInfix_leadText {field : Text} :
    ∀ s : ListedStage, field ∈ s.leadFields → field <:+: s.leadText
  | sort keys, h => by
    obtain ⟨key, hkey, rfl⟩ := List.mem_map.mp h
    have hword := firstWord_of_mem_leadFrom hkey
    rw [firstWord_of_ink key.ink_spell, firstWord_append_ink keys.first.ink_spell] at hword
    have hfield := keys.first.isInfix_field (key.field_isSuffix.isInfix.trans hword)
    exact hfield.trans (isInfix_between _ _ _ _)
  | rename pairs, h => by
    obtain ⟨pair, hpair, hfield⟩ := List.mem_flatMap.mp h
    rw [RenamePair.eq_of_mem_lead hpair] at hfield
    simp only [List.mem_cons, List.not_mem_nil, or_false] at hfield
    rcases hfield with rfl | rfl
    · exact (List.suffix_append _ _).isInfix
    · exact (List.prefix_append _ _).isInfix.trans (isInfix_between _ _ _ _)
  | order _ _ keys, h => by
    obtain ⟨key, hkey, rfl⟩ := List.mem_map.mp h
    have hword := firstWord_of_mem_leadFrom hkey
    rw [key.firstWord_spell, keys.first.firstWord_spell_append] at hword
    refine hword.trans (List.IsSuffix.isInfix ?_)
    exact (List.suffix_cons _ _).trans (List.suffix_append _ _)
  | projectRename pairs, h => by
    obtain ⟨pair, hpair, hfield⟩ := List.mem_flatMap.mp h
    rcases isInfix_readFrom hfield hpair with hnew | hold
    · exact hnew.trans (List.suffix_append _ _).isInfix
    · exact hold.trans (isInfix_between _ _ _ _)

theorem leadFields_isPrefix : ∀ s : ListedStage, s.leadFields <+: s.fields
  | sort _ | order _ _ _ => (leadFrom_isPrefix _ _).map _
  | rename pairs | projectRename pairs => by
    obtain ⟨later, hlater⟩ := leadFrom_isPrefix pairs.first pairs.more
    exact ⟨later.flatMap _, by rw [fields, Listing.items, ← hlater, List.flatMap_append]; rfl⟩

/-! ### Lost fields -/

/-- A stage with one more item after a comma and a blank, in which `field` is
each name. -/
def snoc (field : FieldName) : ListedStage → ListedStage
  | sort keys => sort (keys.snoc ⟨none, field⟩)
  | rename pairs =>
    rename (pairs.snoc ⟨field, oneBlank, ⟨"as", by decide⟩, oneBlank, field⟩)
  | order operator space keys => order operator space (keys.snoc ⟨field, none⟩)
  | projectRename pairs =>
    projectRename (pairs.snoc ⟨field, ⟨" ", by decide⟩, ⟨" ", by decide⟩, field⟩)

theorem mem_fields_snoc (field : FieldName) :
    ∀ s : ListedStage, field.val ∈ (s.snoc field).fields
  | sort _ | rename _ | order _ _ _ | projectRename _ => by
    simp [snoc, fields, Listing.snoc, Listing.items]

/-- How much is left of a stage does not depend on one more item. -/
theorem length_leadText_snoc (x y : FieldName) :
    ∀ s : ListedStage, (s.snoc x).leadText.length = (s.snoc y).leadText.length
  | sort keys => by
    simp only [snoc, leadText, Listing.snoc, firstWord_tailText_snoc]
  | rename pairs => by
    simp only [snoc, leadText, Listing.snoc, firstWord_tailText_snoc]
  | order operator space keys => by
    -- the direction may come from the further item, but it is a sign either way
    simp only [snoc, leadText, Listing.snoc, OrderKey.wordIn, firstWord_tailText_snoc,
      List.length_append, List.length_cons]
  | projectRename pairs => by
    have hread := fun p q => readFrom_snoc p q [] pairs.first pairs.more
    simp only [snoc, leadText, Listing.snoc]
    rw [hread]

theorem isFieldName_replicate (n : Nat) : IsFieldName (List.replicate (n + 1) 'x') := by
  have hall : ∀ c ∈ List.replicate (n + 1) (.char 'x'), c = CodePoint.char 'x' :=
    fun _ => List.eq_of_mem_replicate
  refine ⟨⟨by simp, fun c hc => ?_⟩, fun c hc => ?_, ?_⟩
  · rw [hall c hc]
    decide
  · rw [hall c hc]
    decide
  · simp [List.replicate_succ]

/-- A name of any length. -/
def longName (n : Nat) : FieldName := ⟨List.replicate (n + 1) 'x', isFieldName_replicate n⟩

/-- Every stage has a further item whose field is lost: a name that is longer
than what is left of the stage. -/
theorem exists_not_isInfix_leadText_snoc (s : ListedStage) :
    ∃ field : FieldName, ¬ field.val <:+: (s.snoc field).leadText := by
  let n := (s.snoc (longName 0)).leadText.length
  refine ⟨longName n, fun h => ?_⟩
  have hlength : (longName n).val.length = n + 1 := List.length_replicate
  have hle := h.length_le
  rw [hlength, length_leadText_snoc _ (longName 0)] at hle
  exact Nat.not_succ_le_self n hle

/-- **A stage that lists its operands is converted by its lead.** Of the fields
that it lists, those of the lead stand in the result, and there is no note on
the others. They can be lost: one more item, after a comma and a blank, has a
field that is not in the result. -/
theorem convert_eq_plain_leadText (s : ListedStage) (stage : Text) (equivalent : Doc)
    (inline : Bool) (hargs : stageArguments stage s.verb = s.arguments) :
    s.convert stage equivalent inline = .plain s.leadText ∧
      s.leadFields <+: s.fields ∧ (∀ field ∈ s.leadFields, field <:+: s.leadText) ∧
      ∃ field : FieldName, field.val ∈ (s.snoc field).fields ∧
        ¬ field.val <:+: (s.snoc field).leadText := by
  refine ⟨?_, s.leadFields_isPrefix, fun field hfield => isInfix_leadText s hfield, ?_⟩
  · rw [convert_eq_plain_rule, hargs, rule_arguments]
  · obtain ⟨field, hlost⟩ := s.exists_not_isInfix_leadText_snoc
    exact ⟨field, s.mem_fields_snoc field, hlost⟩

/-- Rows sorted by their count and then by their host. -/
def byCountAndHost : ListedStage :=
  sort ⟨⟨some .descending, ⟨"count", by decide⟩⟩, [(commaSpace, ⟨none, ⟨"host", by decide⟩⟩)]⟩

/-- The second key of a sort is lost. -/
theorem convert_eq_plain_leadText_second_key :
    byCountAndHost.convert "sort -count, host" (.atom (.text "order by")) true =
        .plain "order by count, desc" ∧
      Text.ofString "host" ∈ byCountAndHost.fields ∧
      hasPart "host" "order by count, desc" = false := by
  have hargs : stageArguments "sort -count, host" byCountAndHost.verb =
      byCountAndHost.arguments := by
    decide
  refine ⟨?_, by decide, by decide⟩
  exact (convert_eq_plain_leadText byCountAndHost _ _ _ hargs).1

end ListedStage

end TwinQuery
