/-
# Bytes in base sixty-four

Bytes written as a text: three bytes are a group of four digits, and a last
group of one or two bytes is filled up with equals signs. Characters that are
neither do not count. The text ends with a full group, or where enough equals
signs fill up the last one; what follows them does not count either.

Key definitions: `Base64.decode?`.
-/
import TwinQuery.Text.Basic

namespace TwinQuery

namespace Base64

/-- The value of a digit. -/
def digit? (c : CodePoint) : Option Nat :=
  if c.isUpper then some (c.toNat - 'A'.toNat)
  else if c.isLower then some (c.toNat - 'a'.toNat + 26)
  else if c.isDigit then some (c.toNat - '0'.toNat + 52)
  else if c = '+' then some 62
  else if c = '/' then some 63
  else none

/-- The bytes from a place in a group on. `left` is what the digits before it
leave for the next byte, and `fill` counts the equals signs since the last
digit. -/
def bytesFrom (place left fill : Nat) : Text → Option (List Nat)
  | [] => if place = 0 then some [] else none
  | c :: rest =>
    if c = '=' then
      if place < 2 then bytesFrom place left fill rest
      else if 4 ≤ place + fill + 1 then some []
      else bytesFrom place left (fill + 1) rest
    else
      match digit? c, place with
      | none, _ => bytesFrom place left fill rest
      | some d, 0 => bytesFrom 1 d 0 rest
      | some d, 1 => (bytesFrom 2 (d % 16) 0 rest).map ((left * 4 + d / 16) :: ·)
      | some d, 2 => (bytesFrom 3 (d % 4) 0 rest).map ((left * 16 + d / 4) :: ·)
      | some d, _ => (bytesFrom 0 0 0 rest).map ((left * 64 + d) :: ·)

/-- The bytes that a text stands for. -/
def decode? (t : Text) : Option (List Nat) := bytesFrom 0 0 0 t

end Base64

end TwinQuery
