/-
# Vocabularies

A vocabulary knows the commands of SPL and the operators of KQL by name, each
with its equivalent in the other language and a description. Equivalent and
description are whatever the reference document holds; they become text where
they are shown. Names are told apart by case.

Key definitions: `Verb`, `VerbTable`, `Vocabulary`, `Verb.summary`.
-/
import TwinQuery.Document.Display
import TwinQuery.Time.Stamp

namespace TwinQuery

/-- A command or operator. -/
structure Verb where
  equivalent : Doc
  description : Doc

/-- Commands or operators by name, in the order of the reference document. -/
abbrev VerbTable := List (Text × Verb)

namespace VerbTable

/-- The verb of a name. -/
def find? (table : VerbTable) (name : Text) : Option Verb := table.lookup name

/-- Whether the table knows a name. -/
def knows (table : VerbTable) (name : Text) : Bool := (table.find? name).isSome

end VerbTable

/-- The description of a verb, or its name when there is none. -/
def Verb.summary (name : Text) (v : Verb) : Text :=
  if v.description.isTruthy then v.description.display else name

/-- The vocabularies of both languages and the time they were loaded. -/
structure Vocabulary where
  spl : VerbTable
  kql : VerbTable
  loadedAt : Stamp

end TwinQuery
