/-
# The two query languages

Key definitions: `Language`, `Language.ofDoc`.
-/
import TwinQuery.Fault
import TwinQuery.Text.Blank
import TwinQuery.Text.Case

namespace TwinQuery

/-- A query language. -/
inductive Language where
  | spl
  | kql
deriving DecidableEq

namespace Language

/-- The short name of a language. -/
def name : Language → Text
  | .spl => "spl"
  | .kql => "kql"

/-- The name of a language in a title. -/
def title : Language → Text
  | .spl => "SPL"
  | .kql => "KQL"

/-- The language with the given short name. -/
def ofName? (t : Text) : Option Language :=
  if t = Text.ofString "spl" then some .spl
  else if t = Text.ofString "kql" then some .kql
  else none

/-- The language that a document names; case and blanks around the name do
not count. -/
def ofDoc (d : Doc) : Except Fault Language :=
  match ofName? (Text.lower (Text.strip d.display)) with
  | some language => .ok language
  | none => .error (.unsupportedLanguage d.display)

end Language

end TwinQuery
