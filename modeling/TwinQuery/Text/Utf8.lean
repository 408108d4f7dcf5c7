/-
# UTF-8

Bytes are read as UTF-8 in its strict form: no overlong forms, no halves of
pairs, nothing beyond the last code point. The first bytes that do not fit
are reported with their place and the reason.

Key definitions: `Utf8.decode`, `Utf8.size`, `Utf8.badHalf`.
-/
import TwinQuery.Fault

namespace TwinQuery

namespace Utf8

/-- Whether a half stands for a byte, in the name of a file that is no text. -/
def isByteHalf (c : CodePoint) : Bool := 0xDC80 ≤ c.toNat && c.toNat ≤ 0xDCFF

/-- The number of bytes of a character. -/
def charSize (c : CodePoint) : Nat :=
  if c.toNat < 0x80 || isByteHalf c then 1
  else if c.toNat < 0x800 then 2
  else if c.toNat < 0x10000 then 3
  else 4

/-- The number of bytes of a text. -/
def size : Text → Nat
  | [] => 0
  | c :: rest => charSize c + size rest

/-- How a character begins: the bits of its first byte, and the allowed ranges
of the bytes after it. -/
def lead? (b : Nat) : Option (Nat × List (Nat × Nat)) :=
  if b < 0x80 then some (b, [])
  else if b < 0xC2 then none
  else if b < 0xE0 then some (b - 0xC0, [(0x80, 0xBF)])
  else if b = 0xE0 then some (0, [(0xA0, 0xBF), (0x80, 0xBF)])
  else if b = 0xED then some (13, [(0x80, 0x9F), (0x80, 0xBF)])
  else if b < 0xF0 then some (b - 0xE0, [(0x80, 0xBF), (0x80, 0xBF)])
  else if b = 0xF0 then some (0, [(0x90, 0xBF), (0x80, 0xBF), (0x80, 0xBF)])
  else if b < 0xF4 then some (b - 0xF0, [(0x80, 0xBF), (0x80, 0xBF), (0x80, 0xBF)])
  else if b = 0xF4 then some (4, [(0x80, 0x8F), (0x80, 0xBF), (0x80, 0xBF)])
  else none

/-- The bytes after the first one of a character: its code point and the rest,
or how many bytes fitted and whether the text ended there. -/
def tail (value fitted : Nat) : (ranges : List (Nat × Nat)) → (bytes : List Nat) →
    Except (Nat × Bool) (Nat × List Nat)
  | [], bytes => .ok (value, bytes)
  | _ :: _, [] => .error (fitted, true)
  | (low, high) :: ranges, b :: bytes =>
    if low ≤ b && b ≤ high then tail (value * 64 + b % 64) (fitted + 1) ranges bytes
    else .error (fitted, false)

/-- The text of bytes from `position` on; `fuel` bounds their number. -/
def decodeFrom : (fuel position : Nat) → (bytes : List Nat) → Except BadBytes Text
  | 0, _, _ => .ok []
  | _ + 1, _, [] => .ok []
  | fuel + 1, position, b :: bytes =>
    match lead? b with
    | none => .error ⟨b, position, position, "invalid start byte"⟩
    | some (value, ranges) =>
      match tail value 1 ranges bytes with
      | .error (fitted, atEnd) =>
        let reason : Text := if atEnd then "unexpected end of data" else "invalid continuation byte"
        .error ⟨b, position, position + fitted - 1, reason⟩
      | .ok (code, rest) => do
        let t ← decodeFrom fuel (position + ranges.length + 1) rest
        .ok (CodePoint.ofNat code :: t)

/-- The text of bytes. -/
def decode (bytes : List Nat) : Except BadBytes Text := decodeFrom bytes.length 0 bytes

/-- How the bytes of a text with a half fail: at the first half, whose bytes stand
for nothing. -/
def badHalf (t : Text) : BadBytes :=
  let position := size (t.takeWhile fun c => !c.isHalf)
  ⟨0xED, position, position, "invalid continuation byte"⟩

end Utf8

end TwinQuery
