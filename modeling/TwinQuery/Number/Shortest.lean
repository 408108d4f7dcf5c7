/-
# The shortest decimal of a floating-point number

A number is written with the fewest decimal digits that read back as the same
number, and of those the nearest to it. For one digit, two digits, and so on
up to seventeen, the two neighbours of the number with that many digits are
tried. Positional notation is used from 10^-4 up to 10^16, and a whole number
keeps `.0`; beyond, an exponent of at least two digits follows.

Key definitions: `Binary64.shortest`, `Binary64.display`.
-/
import TwinQuery.Number.Binary64
import TwinQuery.Text.Basic

namespace TwinQuery

namespace Binary64

/-- The greatest `k` with `10 ^ k ≤ num / den`, for positive operands. -/
def floorLog10 (num den : Nat) : Int :=
  if den ≤ num then (digitCount (num / den) : Int) - 1
  else
    let inverse := den / num
    if inverse = Nat.pow 10 (digitCount inverse - 1) && num * inverse == den then
      1 - (digitCount inverse : Int)
    else -(digitCount inverse : Int)

/-- The decimal `digits * 10 ^ e`. -/
structure Decimal where
  digits : Nat
  e : Int
deriving DecidableEq

/-- The decimal without zeros at its end; `fuel` bounds their number. -/
def Decimal.trim : (fuel : Nat) → Decimal → Decimal
  | 0, d => d
  | fuel + 1, d =>
    if d.digits % 10 = 0 && d.digits ≠ 0 then trim fuel ⟨d.digits / 10, d.e + 1⟩ else d

/-- The magnitude of the given rank, with all its digits. -/
def exactDecimal (rank : Nat) : Decimal :=
  let e := exponent rank
  if 0 ≤ e then ⟨significand rank * Nat.pow 2 e.toNat, 0⟩
  else ⟨significand rank * Nat.pow 5 (-e).toNat, e⟩

/-- Whether the decimal reads back as the magnitude of the given rank. -/
def readsAs (rank : Nat) (d : Decimal) : Bool :=
  match ofDecimal false d.digits d.e with
  | .nan => false
  | .number _ r => r.val == rank

/-- The neighbours of `num / den` on the grid `10 ^ e`, the nearer one first;
at a tie the even one. -/
def neighbours (num den : Nat) (e : Int) : List Decimal :=
  let (n, d) :=
    if 0 ≤ e then (num, den * Nat.pow 10 e.toNat) else (num * Nat.pow 10 (-e).toNat, den)
  let below : Decimal := ⟨n / d, e⟩
  let above : Decimal := ⟨n / d + 1, e⟩
  if roundHalfEven n d = n / d then [below, above] else [above, below]

/-- The shortest decimal that reads back as the finite, non-zero magnitude of
the given rank. -/
def shortest (rank : Nat) : Decimal :=
  let (n, d) := ratio rank
  let top := floorLog10 n d
  let candidates := (List.range 17).flatMap fun k : Nat => neighbours n d (top - k)
  ((candidates.find? (readsAs rank)).getD (exactDecimal rank)).trim 400

/-- The digits of a magnitude with a decimal point after `point` of them;
zeros fill the places that have no digit. -/
def positional (digits : Text) (point : Int) : Text :=
  if point ≤ 0 then "0." ++ List.replicate (-point).toNat (CodePoint.char '0') ++ digits
  else if (digits.length : Int) ≤ point then
    digits ++ List.replicate (point.toNat - digits.length) (CodePoint.char '0') ++ ".0"
  else digits.take point.toNat ++ "." ++ digits.drop point.toNat

/-- One digit, the others after a point, and the exponent of ten with its
sign and at least two digits. -/
def exponential (digits : Text) (e : Int) : Text :=
  let tail := digits.drop 1
  digits.take 1 ++ (if tail.isEmpty then [] else '.' :: tail : Text) ++
    "e" ++ (if e < 0 then ['-'] else ['+'] : Text) ++ Text.padLeft '0' 2 (Text.ofNat e.natAbs)

/-- The text of a finite magnitude. -/
def displayMagnitude (rank : Nat) : Text :=
  if rank = 0 then "0.0"
  else
    let d := shortest rank
    let digits := Text.ofNat d.digits
    let point := (digits.length : Int) + d.e
    if -4 < point && point ≤ 16 then positional digits point
    else exponential digits (point - 1)

/-- The text of a number, with the given words for the values that no decimal
stands for. -/
def displayWith (nanText infinityText : Text) : Binary64 → Text
  | .nan => nanText
  | .number negative rank =>
    (if negative then ['-'] else [] : Text) ++
      (if rank.val < infinityRank then displayMagnitude rank.val else infinityText)

/-- The text of a number. -/
def display (x : Binary64) : Text := displayWith "nan" "inf" x

end Binary64

end TwinQuery
