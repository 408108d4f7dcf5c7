/-
# Terms of the form key=value

A search head and the options of a command are made of words. A word carries
a key when the key stands in it at a word boundary and something follows it
there; the value is the rest of the word, and what stands before the key is
kept apart.

Key definitions: `cutField`, `fieldValue`, `eraseField`, `unquote`.
-/
import TwinQuery.Text.Blank
import TwinQuery.Text.Word

namespace TwinQuery

/-- The part of a word before `key` and the value after it, at the first place
where the key follows no word character and is followed by something.
`inWord` says whether a word character stands before the text. -/
def cutFieldFrom (key : Text) : (inWord : Bool) → Text → Option (Text × Text)
  | _, [] => none
  | inWord, c :: rest =>
    match if inWord then none else Text.dropStart? key (c :: rest) with
    | some (v :: value) => some ([], v :: value)
    | _ => (cutFieldFrom key (isWord c) rest).map fun (before, value) => (c :: before, value)

/-- The part of a word before `key` and the value after it. -/
def cutField (key word : Text) : Option (Text × Text) := cutFieldFrom key false word

/-- The value of the first word that carries the key. -/
def fieldValue (key t : Text) : Option Text :=
  (Text.words t).findSome? fun word => (cutField key word).map Prod.snd

/-- A word without the key it carries and its value. -/
def eraseField (key word : Text) : Text := ((cutField key word).map Prod.fst).getD word

/-- The text without its double quotes. -/
def unquote (t : Text) : Text := t.filter fun c => c != '"'

end TwinQuery
