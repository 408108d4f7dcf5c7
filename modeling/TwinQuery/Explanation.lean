/-
# Explanations

A query in plain English: a title and one numbered line for each stage. A
stage whose verb is known is told by the description in the vocabulary, any
other by its own text.

Key definitions: `describeSplHead`, `explainSpl`, `explainKql`, `explain`.
-/
import TwinQuery.Language
import TwinQuery.Pipeline
import TwinQuery.Spl.Head
import TwinQuery.Vocabulary.Basic

namespace TwinQuery

/-- A sentence on the head of an SPL search. -/
def describeSplHead (head : Text) : Text :=
  match fieldValue "index=" head, freeText head with
  | some index, [] => "Searches in the \"" ++ index ++ "\" index"
  | some index, words =>
    "Searches in the \"" ++ index ++ "\" index for events containing: \"" ++ words ++ "\""
  | none, [] => "Starts from the results of a generating command"
  | none, words => "Searches all indexes for events containing: \"" ++ words ++ "\""

/-- The line for a stage: the summary of its verb, or `lead` and the stage
itself. -/
def explainStage (table : VerbTable) (lead stage : Text) : Text :=
  let verb := stageVerb stage
  match table.find? verb with
  | some entry => entry.summary verb
  | none => lead ++ stage

/-- The lines with their numbers, from `n` on. -/
def numberLines : (n : Nat) → List Text → List Text
  | _, [] => []
  | n, line :: lines => (Text.ofNat n ++ ". " ++ line) :: numberLines (n + 1) lines

/-- A title and numbered lines, each ended by a line break. -/
def numberedList (title : Text) (lines : List Text) : Text :=
  Text.joinWith "\n" (title :: numberLines 1 lines) ++ "\n"

/-- An SPL query in plain English. -/
def explainSpl (commands : VerbTable) (query : Text) : Text :=
  let p := Pipeline.ofQuery query
  numberedList "This SPL query:"
    (describeSplHead p.head :: p.stages.map (explainStage commands "Executes: "))

/-- A KQL query in plain English. -/
def explainKql (operators : VerbTable) (query : Text) : Text :=
  let p := Pipeline.ofQuery query
  numberedList "This KQL query:"
    (("Queries the \"" ++ p.head ++ "\" table") ::
      p.stages.map (explainStage operators "Applies: "))

/-- A query in plain English. -/
def explain (v : Vocabulary) (language : Language) (query : Text) : Text :=
  match language with
  | .spl => explainSpl v.spl query
  | .kql => explainKql v.kql query

end TwinQuery
