/-
# Magnitudes of floating-point numbers

Every finite magnitude is a whole number of the smallest units, of which
2^1074 make one. The units grow strictly with the rank (`units_lt_units`), so a
magnitude has one rank (`units_inj`). A number is then equal to an integer
exactly when its units are that many times 2^1074 (`equalsInt_iff`), and two
numbers are the same key when they are the same number or equal to one integer
(`same_iff`).

Key definitions: `Binary64.units`, `Binary64.unitsOfOne`, `Binary64.integer?`.
Key theorems: `Binary64.units_inj`, `Binary64.ratio_units`,
`Binary64.equalsInt_iff`, `Binary64.same_iff`.
-/
import Mathlib.Algebra.Group.Nat.Defs
import TwinQuery.Number.Binary64

namespace TwinQuery

theorem binade_pos : 0 < binade := by decide

namespace Binary64

/-- The magnitude of a rank, in units of 2^-1074. -/
def units (rank : Nat) : Nat :=
  if rank < binade then rank else (binade + rank % binade) * 2 ^ (rank / binade - 1)

/-- The exponent of two of the unit, without its sign. -/
def unitExponent : Nat := 1074

/-- How many units are one. -/
def unitsOfOne : Nat := 2 ^ unitExponent

theorem unitsOfOne_pos : 0 < unitsOfOne := Nat.two_pow_pos unitExponent

/-- The units at a place of a binade, the subnormal ranks being the first. -/
theorem units_of_place {place : Nat} (h : place < binade) (q : Nat) :
    units (binade * (q + 1) + place) = (binade + place) * 2 ^ q := by
  have hpos := binade_pos
  have hle : binade ≤ binade * (q + 1) := Nat.le_mul_of_pos_right _ (by omega)
  have hdiv : (binade * (q + 1) + place) / binade = q + 1 := by
    rw [Nat.mul_add_div hpos, Nat.div_eq_of_lt h, Nat.add_zero]
  have hmod : (binade * (q + 1) + place) % binade = place := by
    rw [Nat.mul_add_mod, Nat.mod_eq_of_lt h]
  rw [units, if_neg (by omega), hdiv, hmod, Nat.add_sub_cancel]

theorem units_of_lt {rank : Nat} (h : rank < binade) : units rank = rank := if_pos h

/-- A rank is subnormal, or it has a binade and a place in it. -/
theorem exists_place {rank : Nat} (h : ¬ rank < binade) :
    ∃ q place, place < binade ∧ rank = binade * (q + 1) + place := by
  have hpos := binade_pos
  have hq : 0 < rank / binade := Nat.div_pos (by omega) hpos
  refine ⟨rank / binade - 1, rank % binade, Nat.mod_lt _ hpos, ?_⟩
  rw [Nat.sub_add_cancel hq, Nat.div_add_mod]

theorem units_lt_succ (rank : Nat) : units rank < units (rank + 1) := by
  have hpos := binade_pos
  by_cases hsub : rank < binade
  · rw [units_of_lt hsub]
    by_cases hnext : rank + 1 < binade
    · rw [units_of_lt hnext]
      omega
    · -- the first binade goes on where the subnormal ranks end
      have hfirst := units_of_place hpos 0
      have heq : rank + 1 = binade * (0 + 1) + 0 := by omega
      rw [heq, hfirst]
      omega
  · obtain ⟨q, place, hplace, rfl⟩ := exists_place hsub
    have hunit := Nat.two_pow_pos q
    rw [units_of_place hplace]
    by_cases hnext : place + 1 < binade
    · rw [Nat.add_assoc, units_of_place hnext]
      exact Nat.mul_lt_mul_of_pos_right (by omega) hunit
    · have heq : binade * (q + 1) + place + 1 = binade * (q + 1 + 1) + 0 := by
        rw [Nat.mul_succ binade (q + 1)]
        omega
      rw [heq, units_of_place hpos, Nat.pow_succ, Nat.mul_comm (2 ^ q), ← Nat.mul_assoc]
      exact Nat.mul_lt_mul_of_pos_right (by omega) hunit

/-- **The units grow strictly with the rank.** -/
theorem units_lt_units {r s : Nat} (h : r < s) : units r < units s := by
  induction s with
  | zero => omega
  | succ s ih =>
    have hstep := units_lt_succ s
    rcases Nat.lt_succ_iff_lt_or_eq.mp h with hlt | rfl
    · exact Nat.lt_trans (ih hlt) hstep
    · exact hstep

theorem units_inj {r s : Nat} (h : units r = units s) : r = s := by
  rcases Nat.lt_trichotomy r s with hlt | heq | hgt
  · exact absurd h (Nat.ne_of_lt (units_lt_units hlt))
  · exact heq
  · exact absurd h.symm (Nat.ne_of_lt (units_lt_units hgt))

theorem ratio_den_pos (rank : Nat) : 0 < (ratio rank).2 := by
  unfold ratio scaleDown
  split
  · simp only [Nat.pow_eq, Nat.one_mul]
    exact Nat.two_pow_pos _
  · exact Nat.one_pos

/-- **The quotient of a magnitude is its number of units.** -/
theorem ratio_units (rank : Nat) :
    (ratio rank).1 * unitsOfOne = units rank * (ratio rank).2 := by
  have hunit : (unitExponent : Int) = 1074 := rfl
  unfold ratio scaleDown unitsOfOne
  by_cases hsub : rank < binade
  · simp only [significand, exponent, units, hsub, if_true, ← hunit, Nat.pow_eq, Nat.one_mul]
    rw [if_pos (by omega)]
    simp only [Int.neg_neg, Int.toNat_natCast]
  · obtain ⟨q, place, hplace, rfl⟩ := exists_place hsub
    have hpos := binade_pos
    have hdiv : (binade * (q + 1) + place) / binade = q + 1 := by
      rw [Nat.mul_add_div hpos, Nat.div_eq_of_lt hplace, Nat.add_zero]
    have hmod : (binade * (q + 1) + place) % binade = place := by
      rw [Nat.mul_add_mod, Nat.mod_eq_of_lt hplace]
    rw [units_of_place hplace]
    simp only [significand, exponent, hsub, if_false, hdiv, hmod, Nat.pow_eq, Nat.one_mul]
    split
    · have hsum : q + (-(((q + 1 : Nat) : Int) - 1075)).toNat = unitExponent := by omega
      rw [Nat.mul_assoc, ← Nat.pow_add, hsum]
    · have hsum : (- -(((q + 1 : Nat) : Int) - 1075)).toNat + unitExponent = q := by omega
      rw [Nat.mul_assoc, ← Nat.pow_add, hsum, Nat.mul_one]

/-- **When a number is equal to an integer.** -/
theorem equalsInt_iff (negative : Bool) (rank : Fin (infinityRank + 1)) (i : Int) :
    (number negative rank).equalsInt i ↔
      rank.val < infinityRank ∧ units rank.val = i.natAbs * unitsOfOne ∧
        (i = 0 ∨ negative = decide (i < 0)) := by
  have hratio := ratio_units rank.val
  have hden := ratio_den_pos rank.val
  have hunits : (ratio rank.val).1 = i.natAbs * (ratio rank.val).2 ↔
      units rank.val = i.natAbs * unitsOfOne := by
    constructor
    · intro h
      apply Nat.eq_of_mul_eq_mul_right hden
      rw [← hratio, h, Nat.mul_right_comm]
    · intro h
      apply Nat.eq_of_mul_eq_mul_right unitsOfOne_pos
      rw [hratio, h, Nat.mul_right_comm]
  simp only [equalsInt, isFinite, Bool.and_eq_true, decide_eq_true_eq, beq_iff_eq, Bool.or_eq_true,
    hunits, and_assoc]

/-- The integer that a number is equal to, if there is one. -/
def integer? : Binary64 → Option Int
  | .nan => none
  | .number negative rank =>
    if rank.val < infinityRank ∧ unitsOfOne ∣ units rank.val then
      let whole : Int := (units rank.val / unitsOfOne : Nat)
      some (if negative then -whole else whole)
    else none

theorem equalsInt_iff_integer? (x : Binary64) (i : Int) : x.equalsInt i ↔ x.integer? = some i := by
  cases x with
  | nan => simp [equalsInt, integer?]
  | number negative rank =>
    have hpos := unitsOfOne_pos
    rw [equalsInt_iff]
    constructor
    · rintro ⟨hfinite, hunits, hsign⟩
      have hdiv : units rank.val / unitsOfOne = i.natAbs := by
        rw [hunits, Nat.mul_div_cancel _ hpos]
      have hdvd : unitsOfOne ∣ units rank.val := ⟨i.natAbs, by rw [hunits, Nat.mul_comm]⟩
      have hsigned : (if negative then -(i.natAbs : Int) else i.natAbs) = i := by
        rcases hsign with rfl | rfl
        · split <;> rfl
        · by_cases hi : i < 0
          · rw [decide_eq_true hi, if_pos rfl]
            omega
          · rw [decide_eq_false hi, if_neg Bool.false_ne_true]
            omega
      rw [integer?, if_pos ⟨hfinite, hdvd⟩, hdiv]
      exact congrArg some hsigned
    · intro h
      rw [integer?] at h
      split at h
      · rename_i hcond
        obtain ⟨hfinite, k, hk⟩ := hcond
        have hdiv : units rank.val / unitsOfOne = k := by rw [hk, Nat.mul_div_cancel_left _ hpos]
        rw [hdiv, Option.some.injEq] at h
        have habs : i.natAbs = k := by split at h <;> omega
        refine ⟨hfinite, by rw [hk, habs, Nat.mul_comm], ?_⟩
        cases negative with
        | false =>
          have hi : (k : Int) = i := h
          exact Or.inr (decide_eq_false (by omega)).symm
        | true =>
          have hi : -(k : Int) = i := h
          by_cases hk : k = 0
          · exact Or.inl (by omega)
          · exact Or.inr (decide_eq_true (by omega)).symm
      · cases h

theorem integer?_zero (negative : Bool) (rank : Fin (infinityRank + 1)) (h : rank.val = 0) :
    (number negative rank).integer? = some 0 := by
  rw [← equalsInt_iff_integer?, equalsInt_iff, h]
  exact ⟨by decide, by rw [units_of_lt binade_pos, Int.natAbs_zero, Nat.zero_mul], Or.inl rfl⟩

/-- Two numbers are equal in value, or the same, when they are equal to the same integer or
are the same. -/
theorem same_iff (x y : Binary64) :
    (x == y || x.equals y) ↔ x = y ∨ ∃ i, x.integer? = some i ∧ y.integer? = some i := by
  rw [Bool.or_eq_true, beq_iff_eq]
  constructor
  · rintro (rfl | h)
    · exact Or.inl rfl
    · cases x with
      | nan => cases h
      | number s m =>
        cases y with
        | nan => cases h
        | number t n =>
          simp only [equals, Bool.and_eq_true, beq_iff_eq, Bool.or_eq_true] at h
          obtain ⟨rfl, rfl | hzero⟩ := h
          · exact Or.inl rfl
          · exact Or.inr ⟨0, integer?_zero s m hzero, integer?_zero t m hzero⟩
  · rintro (rfl | ⟨i, hx, hy⟩)
    · exact Or.inl rfl
    · right
      cases x with
      | nan => cases hx
      | number s m =>
        cases y with
        | nan => cases hy
        | number t n =>
          rw [← equalsInt_iff_integer?, equalsInt_iff] at hx hy
          obtain ⟨-, hm, hs⟩ := hx
          obtain ⟨-, hn, ht⟩ := hy
          obtain rfl : m = n := Fin.ext (units_inj (hm.trans hn.symm))
          simp only [equals, beq_self_eq_true, Bool.true_and, Bool.or_eq_true, beq_iff_eq]
          rcases hs with rfl | rfl
          · right
            apply units_inj
            rw [hm]
            simp [units_of_lt binade_pos]
          · rcases ht with rfl | rfl
            · right
              apply units_inj
              rw [hm]
              simp [units_of_lt binade_pos]
            · exact Or.inl rfl

end Binary64

end TwinQuery
