/-
# Code points

A code point is a character, or a half of a pair that stands alone. The halves
are the numbers that two units of 16 bits take in place of one character
beyond the first 65536. A half alone is no character and has no encoding, but
documents can name one with an escape, and a text can hold it.

A half has no case and is no letter, no digit and no blank.

Key definitions: `CodePoint`, `CodePoint.toNat`, `CodePoint.ofNat`,
`CodePoint.isHalf`.
-/

namespace TwinQuery

/-- A character, or a half that stands alone. -/
inductive CodePoint where
  | char (c : Char)
  | half (n : Fin 2048)
deriving DecidableEq

instance : Coe Char CodePoint := ⟨.char⟩

namespace CodePoint

/-- The number of a code point. -/
def toNat : CodePoint → Nat
  | char c => c.toNat
  | half n => 0xD800 + n

/-- The code point of a number. -/
def ofNat (n : Nat) : CodePoint :=
  if h : 0xD800 ≤ n ∧ n < 0xE000 then half ⟨n - 0xD800, by omega⟩ else char (Char.ofNat n)

/-- Whether a code point is a half. -/
def isHalf : CodePoint → Bool
  | char _ => false
  | half _ => true

/-- What a test says of a code point: a half fails every test. -/
def passes (test : Char → Bool) : CodePoint → Bool
  | char c => test c
  | half _ => false

/-- Whether a code point is an ASCII digit. -/
def isDigit (c : CodePoint) : Bool := c.passes Char.isDigit

/-- Whether a code point is a capital ASCII letter. -/
def isUpper (c : CodePoint) : Bool := c.passes Char.isUpper

/-- Whether a code point is a small ASCII letter. -/
def isLower (c : CodePoint) : Bool := c.passes Char.isLower

/-- Whether a code point is an ASCII letter or digit. -/
def isAlphanum (c : CodePoint) : Bool := c.passes Char.isAlphanum

/-- A code point with its character changed. -/
def mapChar (f : Char → Char) : CodePoint → CodePoint
  | char c => char (f c)
  | half n => half n

/-- An ASCII letter as a capital one. -/
def toUpper (c : CodePoint) : CodePoint := c.mapChar Char.toUpper

/-- An ASCII letter as a small one. -/
def toLower (c : CodePoint) : CodePoint := c.mapChar Char.toLower

/-- The character that a code point is shown as: a half is shown as the
replacement character. -/
def shown : CodePoint → Char
  | char c => c
  | half _ => Char.ofNat 0xFFFD

instance : LE CodePoint := ⟨fun c d => c.toNat ≤ d.toNat⟩

instance (c d : CodePoint) : Decidable (c ≤ d) := inferInstanceAs (Decidable (c.toNat ≤ d.toNat))

theorem ofNat_toNat (c : CodePoint) : ofNat c.toNat = c := by
  cases c with
  | char c =>
    have hc : ¬ (0xD800 ≤ c.toNat ∧ c.toNat < 0xE000) := by
      have hvalid : c.toNat < 0xD800 ∨ 0xDFFF < c.toNat ∧ c.toNat < 0x110000 := c.valid
      omega
    simp only [ofNat, toNat, hc, dif_neg, not_false_eq_true, Char.ofNat_toNat]
  | half n =>
    have hn : 0xD800 + n.val < 0xE000 := by omega
    simp [ofNat, toNat, hn]

theorem toNat_lt (c : CodePoint) : c.toNat < 0x110000 := by
  cases c with
  | char c =>
    have hvalid : c.toNat < 0xD800 ∨ 0xDFFF < c.toNat ∧ c.toNat < 0x110000 := c.valid
    rw [toNat]
    omega
  | half n =>
    rw [toNat]
    omega

theorem toNat_ofNat {n : Nat} (h : n < 0x110000) : (ofNat n).toNat = n := by
  unfold ofNat
  split
  · rename_i hhalf
    show 0xD800 + (n - 0xD800) = n
    omega
  · have hvalid : n.isValidChar := by
      simp only [Nat.isValidChar]
      omega
    rw [toNat, Char.ofNat, dif_pos hvalid]
    rfl

/-- The halves are the code points that two units take in place of one
character. -/
theorem isHalf_iff (c : CodePoint) : c.isHalf ↔ 0xD800 ≤ c.toNat ∧ c.toNat < 0xE000 := by
  cases c with
  | char c =>
    have hvalid : c.toNat < 0xD800 ∨ 0xDFFF < c.toNat ∧ c.toNat < 0x110000 := c.valid
    simp only [isHalf, toNat, Bool.false_eq_true, false_iff]
    omega
  | half n =>
    simp only [isHalf, toNat, true_iff]
    omega

theorem toNat_of_isDigit {c : CodePoint} (h : c.isDigit) : 48 ≤ c.toNat ∧ c.toNat ≤ 57 := by
  cases c with
  | char c =>
    simp only [isDigit, passes, Char.isDigit, Bool.and_eq_true, decide_eq_true_eq,
      UInt32.le_iff_toNat_le] at h
    exact h
  | half n => cases h

theorem toNat_inj {c d : CodePoint} : c.toNat = d.toNat ↔ c = d :=
  ⟨fun h => by rw [← ofNat_toNat c, h, ofNat_toNat], fun h => h ▸ rfl⟩

end CodePoint

end TwinQuery
