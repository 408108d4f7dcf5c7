/-
# Arguments of KQL operators

The parts that the operators with a rule of their own take from their
arguments: the two names of `project-rename`, and the field and direction of
`order by`; and the spelling of equality.

Key definitions: `projectRenamePair?`, `orderKey?`, `singleEquals`.
-/
import TwinQuery.Spl.Argument

namespace TwinQuery

/-- The parts of a word around an equals sign that is neither its first
character nor its last, at the last such place. -/
def cutAtEquals : Text → Option (Text × Text)
  | [] => none
  | c :: rest =>
    match cutAtEquals rest with
    | some (before, after) => some (c :: before, after)
    | none =>
      match rest with
      | '=' :: d :: after => some ([c], d :: after)
      | _ => none

/-- The new and the old name when the word `word` is the new name, or holds
it: the words after it begin with an equals sign, or the word ends in one, or
one stands inside it. -/
def projectRenameAt (word : Text) (rest : List Text) : Option (Text × Text) :=
  let across : Option (Text × Text) :=
    match rest with
    | ('=' :: d :: old) :: _ => some (word, d :: old)
    | ['='] :: old :: _ => some (word, old)
    | _ => none
  let atEnd : Option (Text × Text) :=
    match word.reverse, rest with
    | '=' :: c :: before, old :: _ => some ((c :: before).reverse, old)
    | _, _ => none
  across.or (atEnd.or (cutAtEquals word))

/-- The new and the old name around the first equals sign that has both. -/
def projectRenameIn : List Text → Option (Text × Text)
  | [] => none
  | word :: rest => (projectRenameAt word rest).or (projectRenameIn rest)

/-- The new and the old name of a `project-rename`. -/
def projectRenamePair? (args : Text) : Option (Text × Text) := projectRenameIn (Text.words args)

/-- Whether a word is `by`, or ends in it after a character that is not a word
character. -/
def endsInBy (word : Text) : Bool :=
  match word.reverse with
  | 'y' :: 'b' :: [] => true
  | 'y' :: 'b' :: c :: _ => !isWord c
  | _ => false

/-- The direction that a word begins with. -/
def directionOf? (word : Text) : Option Direction :=
  if Text.startsWith "asc" word then some .ascending
  else if Text.startsWith "desc" word then some .descending
  else none

/-- The field after the first `by`, and the direction that the next word
begins with. -/
def orderKeyIn : List Text → Option (Text × Option Direction)
  | word :: field :: rest =>
    if endsInBy word then some (field, rest.head?.bind directionOf?)
    else orderKeyIn (field :: rest)
  | _ => none

/-- The field and direction of `order by`. -/
def orderKey? (args : Text) : Option (Text × Option Direction) := orderKeyIn (Text.words args)

/-- The text with every double equals sign made single, from the left. -/
def singleEquals : Text → Text
  | '=' :: '=' :: rest => '=' :: singleEquals rest
  | c :: rest => c :: singleEquals rest
  | [] => []

end TwinQuery
