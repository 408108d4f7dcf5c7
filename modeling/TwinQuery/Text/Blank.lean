/-
# Blanks, words and lines

A blank is a white-space character of any script. `strip` takes the blanks
off both ends, `words` gives the maximal runs of other characters, and
`lines` the pieces between line breaks, where a carriage return followed by a
line feed is one break and a break at the end opens no further line.

Key definitions: `isBlank`, `isLineBreak`, `Text.strip`, `Text.words`,
`Text.mapWords`, `Text.lines`.
-/
import TwinQuery.Text.Basic
import TwinQuery.Text.Range

namespace TwinQuery

/-- The white-space characters. -/
def blankRanges : List (Nat × Nat) :=
  [(0x9, 0xd), (0x1c, 0x20), (0x85, 0x85), (0xa0, 0xa0), (0x1680, 0x1680), (0x2000, 0x200a),
   (0x2028, 0x2029), (0x202f, 0x202f), (0x205f, 0x205f), (0x3000, 0x3000)]

/-- The characters that end a line. -/
def lineBreakRanges : List (Nat × Nat) :=
  [(0xa, 0xd), (0x1c, 0x1e), (0x85, 0x85), (0x2028, 0x2029)]

/-- A white-space character. -/
def isBlank (c : CodePoint) : Bool := inRanges blankRanges c.toNat

/-- A character that is not white space. -/
def isInk (c : CodePoint) : Bool := !isBlank c

/-- A character that ends a line. -/
def isLineBreak (c : CodePoint) : Bool := inRanges lineBreakRanges c.toNat

namespace Text

/-- The text without the blanks at its start. -/
def stripStart (t : Text) : Text := t.dropWhile isBlank

/-- The text without the blanks at its end. -/
def stripEnd : Text → Text
  | [] => []
  | c :: rest =>
    match stripEnd rest with
    | [] => if isBlank c then [] else [c]
    | d :: kept => c :: d :: kept

/-- The text without the blanks at either end. -/
def strip (t : Text) : Text := stripEnd (stripStart t)

/-- The maximal runs of characters that are not blank. -/
def words : Text → List Text
  | [] => []
  | c :: rest =>
    if isBlank c then words rest
    else
      match rest, words rest with
      | d :: _, w :: ws => if isBlank d then [c] :: w :: ws else (c :: w) :: ws
      | _, _ => [[c]]

/-- The text with every word replaced by its image, the blanks between the
words kept. `word` holds the characters of the word being read. -/
def mapWordsFrom (f : Text → Text) (word : Text) : Text → Text
  | [] => if word.isEmpty then [] else f word
  | c :: rest =>
    if isBlank c then
      (if word.isEmpty then [] else f word) ++ c :: mapWordsFrom f [] rest
    else mapWordsFrom f (word ++ [c]) rest

/-- The text with every word replaced by its image, the blanks between the
words kept. -/
def mapWords (f : Text → Text) (t : Text) : Text := mapWordsFrom f [] t

/-- The lines of a text, without their line breaks. -/
def lines : Text → List Text
  | [] => []
  | '\r' :: '\n' :: rest => [] :: lines rest
  | c :: rest =>
    if isLineBreak c then [] :: lines rest
    else
      match lines rest with
      | [] => [[c]]
      | line :: more => (c :: line) :: more

end Text

end TwinQuery
