/-
# Texts as lists of code points

Every rule of this library reads a text from left to right, so a text is the
list of its code points: a rule is then a recursion on the list, and a law
about it an induction. Strings appear only as literals and at the outermost
layer.

Key definitions: `Text`, `Text.ofString`, `Text.isEncodable`, `Text.joinWith`,
`Text.dropStart?`, `Text.hasPart`, `Text.cutAt`.
-/
import TwinQuery.Text.CodePoint

namespace TwinQuery

/-- A text: the list of its code points. -/
abbrev Text := List CodePoint

/-- The characters of a literal. -/
def Text.ofString (s : String) : Text := s.toList.map .char

instance : Coe String Text := ⟨Text.ofString⟩

/-- The literal of a text, for the outermost layer. -/
def Text.toString (t : Text) : String := String.ofList (t.map CodePoint.shown)

/-- Whether a text has an encoding: no half stands in it. -/
def Text.isEncodable (t : Text) : Bool := t.all fun c => !c.isHalf

@[simp] theorem Text.isEncodable_nil : Text.isEncodable [] = true := rfl

@[simp] theorem Text.isEncodable_cons_char (c : Char) (t : Text) :
    Text.isEncodable (.char c :: t) = t.isEncodable :=
  Bool.true_and _

@[simp] theorem Text.isEncodable_append (a b : Text) :
    (a ++ b).isEncodable = (a.isEncodable && b.isEncodable) :=
  List.all_append

@[simp] theorem Text.isEncodable_ofString (s : String) : (Text.ofString s).isEncodable = true := by
  simp [Text.ofString, Text.isEncodable, CodePoint.isHalf]

/-- The texts in order, with `separator` between neighbours. -/
def Text.joinWith (separator : Text) : List Text → Text
  | [] => []
  | [t] => t
  | t :: u :: rest => t ++ separator ++ joinWith separator (u :: rest)

/-- What follows `start`, when the text begins with it. -/
def Text.dropStart? : (start t : Text) → Option Text
  | [], t => some t
  | _ :: _, [] => none
  | c :: start, d :: t => if c = d then dropStart? start t else none

/-- Whether the text begins with `start`. -/
def Text.startsWith (start t : Text) : Bool := (Text.dropStart? start t).isSome

/-- Whether `part` occurs somewhere in the text. -/
def Text.hasPart (part : Text) : Text → Bool
  | [] => part.isEmpty
  | c :: rest => Text.startsWith part (c :: rest) || hasPart part rest

/-- The pieces between the occurrences of `mark`: one more than there are
marks, empty pieces included. -/
def Text.cutAt (mark : CodePoint) : Text → List Text
  | [] => [[]]
  | c :: rest =>
    if c = mark then [] :: cutAt mark rest
    else
      match cutAt mark rest with
      | [] => [[c]]
      | piece :: pieces => (c :: piece) :: pieces

/-- The decimal numeral of a natural number. -/
def Text.ofNat (n : Nat) : Text := (Nat.toDigits 10 n).map .char

theorem Text.ofNat_ne_nil (n : Nat) : Text.ofNat n ≠ [] := by
  simp [Text.ofNat, Nat.toDigits_ne_nil]

theorem Text.isDigit_of_mem_ofNat {n : Nat} {c : CodePoint} (h : c ∈ Text.ofNat n) : c.isDigit := by
  obtain ⟨digit, hdigit, rfl⟩ := List.mem_map.mp h
  exact Nat.isDigit_of_mem_toDigits (by decide) (by decide) hdigit

/-- The decimal numeral of an integer, with a minus sign when it is negative. -/
def Text.ofInt : Int → Text
  | .ofNat n => Text.ofNat n
  | .negSucc n => '-' :: Text.ofNat (n + 1)

/-- The text with `fill` added on the left until it has `width` characters. -/
def Text.padLeft (fill : CodePoint) (width : Nat) (t : Text) : Text :=
  List.replicate (width - t.length) fill ++ t

/-- The text with blanks added on the right until it has `width` characters. -/
def Text.padRight (width : Nat) (t : Text) : Text :=
  t ++ List.replicate (width - t.length) (.char ' ')

end TwinQuery
