/-
# Binary floating-point numbers of 64 bits

A number is its sign and its rank: the place of its magnitude among all
magnitudes, zero first and infinity last. Ranks below 2^52 are the subnormal
magnitudes; from there on every block of 2^52 ranks is one binade. So each
value of the type is one number, and rounding is a count in `Nat`.

Key definitions: `Binary64`, `Binary64.ofRatio`, `Binary64.ofDecimal`.
-/

namespace TwinQuery

/-- The number of ranks in a binade, the 52nd power of two. -/
def binade : Nat := 4503599627370496

/-- The rank of infinity, above the ranks of all finite magnitudes. -/
def infinityRank : Nat := 2047 * binade

/-- A floating-point number of 64 bits: not a number, or a sign and the rank
of the magnitude. -/
inductive Binary64 where
  | nan
  | number (negative : Bool) (rank : Fin (infinityRank + 1))
deriving DecidableEq

namespace Binary64

/-- The whole number of units in the magnitude of the given rank. -/
def significand (rank : Nat) : Nat :=
  if rank < binade then rank else binade + rank % binade

/-- The exponent of two of the unit at the given rank. -/
def exponent (rank : Nat) : Int :=
  if rank < binade then -1074 else (rank / binade : Nat) - 1075

/-- The quotient rounded to the nearest whole number, a tie to the even one. -/
def roundHalfEven (num den : Nat) : Nat :=
  if 2 * (num % den) < den then num / den
  else if den < 2 * (num % den) then num / den + 1
  else num / den + num / den % 2

/-- `num / (den * 2 ^ e)` as a quotient of natural numbers. -/
def scaleDown (num den : Nat) (e : Int) : Nat × Nat :=
  if 0 ≤ e then (num, den * Nat.pow 2 e.toNat) else (num * Nat.pow 2 (-e).toNat, den)

/-- The greatest `k` with `2 ^ k ≤ num / den`, for positive operands. -/
def floorLog2 (num den : Nat) : Int :=
  let guess : Int := (Nat.log2 num : Int) - Nat.log2 den
  let (n, d) := scaleDown num den guess
  if d ≤ n then guess else guess - 1

/-- The rank of the magnitude nearest to `num / den`, a tie to the even one. -/
def rankOfRatio (num den : Nat) : Nat :=
  if num = 0 then 0
  else
    let e := max (floorLog2 num den - 52) (-1074)
    let (n, d) := scaleDown num den e
    min infinityRank ((e + 1074).toNat * binade + roundHalfEven n d)

/-- The number with the given sign that is nearest to `num / den`. -/
def ofRatio (negative : Bool) (num den : Nat) : Binary64 :=
  .number negative ⟨min infinityRank (rankOfRatio num den), by omega⟩

/-- The infinite number of the given sign. -/
def infinity (negative : Bool) : Binary64 :=
  .number negative ⟨infinityRank, by omega⟩

/-- The zero of the given sign. -/
def zero (negative : Bool) : Binary64 :=
  .number negative ⟨0, by omega⟩

/-- How many decimal digits the number has. -/
def digitCount (n : Nat) : Nat := (Nat.toDigits 10 n).length

/-- The number nearest to `digits * 10 ^ e`. A magnitude of 10^310 or more is
infinite and one below 10^-400 is zero, whatever its digits. -/
def ofDecimal (negative : Bool) (digits : Nat) (e : Int) : Binary64 :=
  if digits = 0 then zero negative
  else if 310 < (digitCount digits : Int) + e then infinity negative
  else if (digitCount digits : Int) + e < -400 then zero negative
  else if 0 ≤ e then ofRatio negative (digits * Nat.pow 10 e.toNat) 1
  else ofRatio negative digits (Nat.pow 10 (-e).toNat)

/-- Whether the number is a zero of either sign. -/
def isZero : Binary64 → Bool
  | .nan => false
  | .number _ rank => rank.val == 0

/-- Whether the number is neither infinite nor `nan`. -/
def isFinite : Binary64 → Bool
  | .nan => false
  | .number _ rank => rank.val < infinityRank

/-- The magnitude of a finite number as a quotient of natural numbers. -/
def ratio (rank : Nat) : Nat × Nat :=
  scaleDown (significand rank) 1 (-(exponent rank))

/-- Whether a finite number is equal to the given integer. -/
def equalsInt (x : Binary64) (i : Int) : Bool :=
  match x with
  | .nan => false
  | .number negative rank =>
    let (n, d) := ratio rank.val
    x.isFinite && n == i.natAbs * d && (i == 0 || negative == decide (i < 0))

/-- Equality of values: the two zeros are equal, and `nan` equals nothing. -/
def equals : Binary64 → Binary64 → Bool
  | .number s m, .number t n => m == n && (s == t || m.val == 0)
  | _, _ => false

/-- The whole part of a finite number and its fraction, which has the same
sign and keeps all its bits. -/
def split (negative : Bool) (rank : Nat) : Int × Binary64 :=
  let (n, d) := ratio rank
  let whole : Int := n / d
  (if negative then -whole else whole, ofRatio negative (n % d) d)

/-- The product with a natural number, rounded. -/
def timesNat (x : Binary64) (k : Nat) : Binary64 :=
  match x with
  | .nan => .nan
  | .number negative rank =>
    let (n, d) := ratio rank.val
    ofRatio negative (n * k) d

/-- The sum, rounded. -/
def plus (x y : Binary64) : Binary64 :=
  match x, y with
  | .number s m, .number t n =>
    if !x.isFinite then (if y.isFinite || s == t then x else .nan)
    else if !y.isFinite then y
    else
      let (a, b) := ratio m.val
      let (c, d) := ratio n.val
      let sum : Int :=
        (if s then -(a * d : Int) else a * d) + (if t then -(c * b : Int) else c * b)
      if sum = 0 then zero (s && t) else ofRatio (decide (sum < 0)) sum.natAbs (b * d)
  | _, _ => .nan

/-- The product, rounded. -/
def times (x y : Binary64) : Binary64 :=
  match x, y with
  | .number s m, .number t n =>
    if x.isFinite && y.isFinite then
      let (a, b) := ratio m.val
      let (c, d) := ratio n.val
      ofRatio (s != t) (a * c) (b * d)
    else if x.isZero || y.isZero then .nan
    else infinity (s != t)
  | _, _ => .nan

/-- The number of the other sign. -/
def negate : Binary64 → Binary64
  | .nan => .nan
  | .number s m => .number (!s) m

/-- A finite number rounded to the nearest integer, a tie to the even one. -/
def roundToInt (x : Binary64) : Int :=
  match x with
  | .nan => 0
  | .number negative rank =>
    let (n, d) := ratio rank.val
    if negative then -(roundHalfEven n d : Int) else roundHalfEven n d

end Binary64

end TwinQuery
