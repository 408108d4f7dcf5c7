/-
# Fragments of converted queries

Converting a part of a query gives a piece of text in the other language and
notes about every decision taken on the way.

Key definitions: `Fragment`.
-/
import TwinQuery.Text.Basic

namespace TwinQuery

/-- A piece of a converted query with the notes on it. -/
structure Fragment where
  text : Text
  notes : List Text
deriving DecidableEq

namespace Fragment

/-- A piece without notes. -/
def plain (text : Text) : Fragment := ⟨text, []⟩

/-- Two pieces in a row. -/
def append (a b : Fragment) : Fragment := ⟨a.text ++ b.text, a.notes ++ b.notes⟩

instance : Append Fragment := ⟨append⟩

/-- Pieces in a row. -/
def concat : List Fragment → Fragment
  | [] => ⟨[], []⟩
  | piece :: pieces => piece ++ concat pieces

end Fragment

end TwinQuery
