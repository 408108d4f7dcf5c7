/-
# Confidence

How far a conversion can be trusted, from 0 to 100: twenty points are lost for
each error and five for each warning, in the query given and in the query
produced, and ten for each note that tells of something not converted.

Key definitions: `isIssueNote`, `confidence`.
-/
import TwinQuery.Validation

namespace TwinQuery

/-- The words that mark a note on something not converted. -/
def issueMarkers : List Text := ["Unknown", "manual", "WARNING"]

/-- Whether a note tells of something not converted. -/
def isIssueNote (note : Text) : Bool := issueMarkers.any fun marker => Text.hasPart marker note

/-- The points lost for what a validation found. -/
def Findings.penalty (f : Findings) : Nat := 20 * f.errors.length + 5 * f.warnings.length

/-- The points lost for notes. -/
def notesPenalty (notes : List Text) : Nat := 10 * notes.countP isIssueNote

/-- The confidence in a conversion; it does not fall below 0. -/
def confidence (input output : Findings) (notes : List Text) : Nat :=
  100 - (input.penalty + output.penalty + notesPenalty notes)

end TwinQuery
