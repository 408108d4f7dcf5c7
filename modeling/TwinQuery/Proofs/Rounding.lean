/-
# Rounding to floating-point numbers

The rank of the magnitude nearest to a quotient depends on the value of the
quotient alone (`rankOfRatio_congr`), and a magnitude is nearest to itself
(`rankOfRatio_of_value`). So a decimal that is written with more zeros at its end
is read as the same number (`ofDecimal_mul_ten`), and a magnitude that is
written with all its digits is read as that magnitude (`ofDecimal_exactDecimal`).

Key theorems: `Binary64.floorLog2_eq_log`, `Binary64.rankOfRatio_congr`,
`Binary64.rankOfRatio_of_value`, `Binary64.ofDecimal_shortest`.
-/
import Mathlib.Data.Int.Log
import Mathlib.Data.Rat.Floor
import Mathlib.Tactic.FieldSimp
import Mathlib.Tactic.Linarith
import Mathlib.Tactic.Positivity
import Mathlib.Tactic.Ring
import TwinQuery.Number.Shortest
import TwinQuery.Proofs.Magnitude

namespace TwinQuery

namespace Binary64

/-! ### Quotients -/

/-- Rounding depends on the value of a quotient alone. -/
theorem roundHalfEven_mul {k : Nat} (hk : 0 < k) (num den : Nat) :
    roundHalfEven (k * num) (k * den) = roundHalfEven num den := by
  have hmod : k * num % (k * den) = k * (num % den) := Nat.mul_mod_mul_left k num den
  have hdiv : k * num / (k * den) = num / den := Nat.mul_div_mul_left num den hk
  have hlt : 2 * (k * (num % den)) < k * den ↔ 2 * (num % den) < den := by
    rw [show 2 * (k * (num % den)) = k * (2 * (num % den)) by ring]
    exact Nat.mul_lt_mul_left hk
  have hgt : k * den < 2 * (k * (num % den)) ↔ den < 2 * (num % den) := by
    rw [show 2 * (k * (num % den)) = k * (2 * (num % den)) by ring]
    exact Nat.mul_lt_mul_left hk
  simp only [roundHalfEven, hmod, hdiv, hlt, hgt]

theorem roundHalfEven_congr {a b c d : Nat} (hb : 0 < b) (hd : 0 < d) (h : a * d = c * b) :
    roundHalfEven a b = roundHalfEven c d := by
  calc roundHalfEven a b = roundHalfEven (d * a) (d * b) := (roundHalfEven_mul hd a b).symm
    _ = roundHalfEven (b * c) (b * d) := by rw [Nat.mul_comm d a, h, Nat.mul_comm c b, Nat.mul_comm d b]
    _ = roundHalfEven c d := roundHalfEven_mul hb c d

theorem roundHalfEven_one (n : Nat) : roundHalfEven n 1 = n := by
  simp [roundHalfEven, Nat.mod_one]

theorem scaleDown_den_pos (num : Nat) {den : Nat} (hden : 0 < den) (e : Int) :
    0 < (scaleDown num den e).2 := by
  unfold scaleDown
  split
  · exact Nat.mul_pos hden (Nat.pow_pos (by decide))
  · exact hden

/-- What scaling does to the value of a quotient. -/
theorem scaleDown_div (num : Nat) {den : Nat} (hden : 0 < den) (e : Int) :
    ((scaleDown num den e).1 : ℚ) / (scaleDown num den e).2 = num / den / 2 ^ e := by
  unfold scaleDown
  split
  · rename_i he
    obtain ⟨k, rfl⟩ := Int.eq_ofNat_of_zero_le he
    simp only [Int.toNat_natCast, zpow_natCast, Nat.pow_eq, Nat.cast_mul, Nat.cast_pow,
      Nat.cast_ofNat]
    field_simp
  · rename_i he
    obtain ⟨k, hk⟩ := Int.eq_ofNat_of_zero_le (show 0 ≤ -e by omega)
    obtain rfl : e = -(k : Int) := by omega
    simp only [neg_neg, Int.toNat_natCast, zpow_neg, zpow_natCast, Nat.pow_eq, Nat.cast_mul, Nat.cast_pow,
      Nat.cast_ofNat]
    field_simp

theorem scaleDown_le_iff {num den : Nat} (hden : 0 < den) (e : Int) :
    (scaleDown num den e).2 ≤ (scaleDown num den e).1 ↔ (2 : ℚ) ^ e ≤ num / den := by
  have hpos : (0 : ℚ) < (scaleDown num den e).2 := by
    exact_mod_cast scaleDown_den_pos num hden e
  have hpow : (0 : ℚ) < 2 ^ e := zpow_pos (by norm_num) e
  rw [← Nat.cast_le (α := ℚ), ← one_le_div hpos, scaleDown_div num hden, one_le_div hpow]

/-- The difference of two logarithms is at most one too large. -/
theorem log2_sub_log2_bounds {num den : Nat} (hnum : 0 < num) (hden : 0 < den) :
    (2 : ℚ) ^ ((Nat.log2 num : Int) - Nat.log2 den - 1) ≤ num / den ∧
      (num / den : ℚ) < 2 ^ ((Nat.log2 num : Int) - Nat.log2 den + 1) := by
  have hden' : (0 : ℚ) < den := by exact_mod_cast hden
  have hnumLow : (2 : ℚ) ^ Nat.log2 num ≤ num := by
    exact_mod_cast Nat.log2_self_le (Nat.ne_of_gt hnum)
  have hnumHigh : (num : ℚ) < 2 ^ (Nat.log2 num + 1) := by
    exact_mod_cast Nat.lt_log2_self
  have hdenLow : (2 : ℚ) ^ Nat.log2 den ≤ den := by
    exact_mod_cast Nat.log2_self_le (Nat.ne_of_gt hden)
  have hdenHigh : (den : ℚ) < 2 ^ (Nat.log2 den + 1) := by
    exact_mod_cast Nat.lt_log2_self
  constructor
  · rw [le_div_iff₀ hden']
    calc (2 : ℚ) ^ ((Nat.log2 num : Int) - Nat.log2 den - 1) * den
        ≤ 2 ^ ((Nat.log2 num : Int) - Nat.log2 den - 1) * 2 ^ (Nat.log2 den + 1) :=
          mul_le_mul_of_nonneg_left hdenHigh.le (zpow_nonneg (by norm_num) _)
      _ = 2 ^ Nat.log2 num := by
          rw [← zpow_natCast, ← zpow_natCast, ← zpow_add₀ (by norm_num)]
          congr 1
          push_cast
          ring
      _ ≤ num := hnumLow
  · rw [div_lt_iff₀ hden']
    calc (num : ℚ) < 2 ^ (Nat.log2 num + 1) := hnumHigh
      _ = 2 ^ ((Nat.log2 num : Int) - Nat.log2 den + 1) * 2 ^ Nat.log2 den := by
          rw [← zpow_natCast, ← zpow_natCast, ← zpow_add₀ (by norm_num)]
          congr 1
          push_cast
          ring
      _ ≤ 2 ^ ((Nat.log2 num : Int) - Nat.log2 den + 1) * den :=
          mul_le_mul_of_nonneg_left hdenLow (zpow_nonneg (by norm_num) _)

/-- **The logarithm is that of the value.** -/
theorem floorLog2_eq_log {num den : Nat} (hnum : 0 < num) (hden : 0 < den) :
    floorLog2 num den = Int.log 2 ((num : ℚ) / den) := by
  have hpos : (0 : ℚ) < num / den := by
    have hnum' : (0 : ℚ) < num := by exact_mod_cast hnum
    have hden' : (0 : ℚ) < den := by exact_mod_cast hden
    exact div_pos hnum' hden'
  obtain ⟨hlow, hhigh⟩ := log2_sub_log2_bounds hnum hden
  unfold floorLog2
  generalize (Nat.log2 num : Int) - Nat.log2 den = guess at *
  have hge : guess - 1 ≤ Int.log 2 ((num : ℚ) / den) :=
    (Int.zpow_le_iff_le_log (by decide) hpos).mp hlow
  have hlt : Int.log 2 ((num : ℚ) / den) < guess + 1 :=
    (Int.lt_zpow_iff_log_lt (by decide) hpos).mp hhigh
  have hiff : (scaleDown num den guess).2 ≤ (scaleDown num den guess).1 ↔
      guess ≤ Int.log 2 ((num : ℚ) / den) :=
    (scaleDown_le_iff hden guess).trans (Int.zpow_le_iff_le_log (by decide) hpos)
  simp only [hiff]
  split <;> omega

/-- **The rank of a quotient depends on its value alone.** -/
theorem rankOfRatio_congr {a b c d : Nat} (hb : 0 < b) (hd : 0 < d) (h : a * d = c * b) :
    rankOfRatio a b = rankOfRatio c d := by
  by_cases ha : a = 0
  · have hc : c = 0 := by
      subst ha
      rw [Nat.zero_mul] at h
      exact (Nat.mul_eq_zero.mp h.symm).resolve_right (Nat.ne_of_gt hb)
    rw [rankOfRatio, rankOfRatio, if_pos ha, if_pos hc]
  · have hc : c ≠ 0 := by
      rintro rfl
      rw [Nat.zero_mul] at h
      exact ha ((Nat.mul_eq_zero.mp h).resolve_right (Nat.ne_of_gt hd))
    have hvalue : (a : ℚ) / b = c / d := by
      have hb' : (b : ℚ) ≠ 0 := by exact_mod_cast Nat.ne_of_gt hb
      have hd' : (d : ℚ) ≠ 0 := by exact_mod_cast Nat.ne_of_gt hd
      rw [div_eq_div_iff hb' hd']
      exact_mod_cast h
    have hlog : floorLog2 a b = floorLog2 c d := by
      rw [floorLog2_eq_log (Nat.pos_of_ne_zero ha) hb, floorLog2_eq_log (Nat.pos_of_ne_zero hc) hd,
        hvalue]
    have hround : ∀ e : Int, roundHalfEven (scaleDown a b e).1 (scaleDown a b e).2 =
        roundHalfEven (scaleDown c d e).1 (scaleDown c d e).2 := by
      intro e
      refine roundHalfEven_congr (scaleDown_den_pos a hb e) (scaleDown_den_pos c hd e) ?_
      have hscaled := (scaleDown_div a hb e).trans ((congrArg (· / (2 : ℚ) ^ e) hvalue).trans
        (scaleDown_div c hd e).symm)
      have hb' : ((scaleDown a b e).2 : ℚ) ≠ 0 := by
        exact_mod_cast Nat.ne_of_gt (scaleDown_den_pos a hb e)
      have hd' : ((scaleDown c d e).2 : ℚ) ≠ 0 := by
        exact_mod_cast Nat.ne_of_gt (scaleDown_den_pos c hd e)
      rw [div_eq_div_iff hb' hd'] at hscaled
      exact_mod_cast hscaled
    simp only [rankOfRatio, if_neg ha, if_neg hc, hlog, hround]

/-! ### Magnitudes -/

theorem binade_cast : (binade : ℚ) = 2 ^ (52 : Int) := by norm_num [binade]

/-- The logarithm of what has at most 53 binary digits before its unit. -/
theorem log_le_of_lt {m : Nat} {e : Int} (hpos : 0 < m) (h : m < 2 * binade) :
    Int.log 2 ((m : ℚ) * 2 ^ e) ≤ e + 52 := by
  have hm : (0 : ℚ) < m := by exact_mod_cast hpos
  have hvalue : (0 : ℚ) < m * 2 ^ e := mul_pos hm (zpow_pos (by norm_num) e)
  have hlt : (m : ℚ) * 2 ^ e < 2 ^ (e + 52 + 1) := by
    have hm' : (m : ℚ) < 2 * binade := by exact_mod_cast h
    calc (m : ℚ) * 2 ^ e < 2 * binade * 2 ^ e := mul_lt_mul_of_pos_right hm' (zpow_pos (by norm_num) e)
      _ = 2 ^ (e + 52 + 1) := by
          rw [binade_cast, zpow_add₀ (by norm_num), zpow_add₀ (by norm_num)]
          ring
  have hlog : Int.log 2 ((m : ℚ) * 2 ^ e) < e + 52 + 1 :=
    (Int.lt_zpow_iff_log_lt (by decide) hvalue).mp hlt
  omega

theorem le_log_of_le {m : Nat} {e : Int} (h : binade ≤ m) :
    e + 52 ≤ Int.log 2 ((m : ℚ) * 2 ^ e) := by
  have hm : (binade : ℚ) ≤ m := by exact_mod_cast h
  have hbinade : (0 : ℚ) < binade := by exact_mod_cast binade_pos
  have hvalue : (0 : ℚ) < m * 2 ^ e := mul_pos (hbinade.trans_le hm) (zpow_pos (by norm_num) e)
  refine (Int.zpow_le_iff_le_log (by decide) hvalue).mp ?_
  calc ((2 : Nat) : ℚ) ^ (e + 52) = binade * 2 ^ e := by
        rw [binade_cast, Nat.cast_ofNat, zpow_add₀ (by norm_num)]
        ring
    _ ≤ m * 2 ^ e := mul_le_mul_of_nonneg_right hm (zpow_nonneg (by norm_num) e)

/-- **A magnitude has the rank of its units and its exponent.** Its units have 53
binary digits, or its exponent is the least one. -/
theorem rankOfRatio_eq {num den m : Nat} {e : Int} (hden : 0 < den)
    (hvalue : (num : ℚ) / den = m * 2 ^ e) (he : -1074 ≤ e) (hm : m < 2 * binade)
    (hnormal : binade ≤ m ∨ e = -1074) :
    rankOfRatio num den = min infinityRank ((e + 1074).toNat * binade + m) := by
  have hden' : (den : ℚ) ≠ 0 := by exact_mod_cast Nat.ne_of_gt hden
  have hpow : (2 : ℚ) ^ e ≠ 0 := zpow_ne_zero e (by norm_num)
  by_cases hzero : num = 0
  · have hm0 : m = 0 := by
      subst hzero
      rw [Nat.cast_zero, zero_div] at hvalue
      exact_mod_cast (mul_eq_zero.mp hvalue.symm).resolve_right hpow
    have he' : e = -1074 := hnormal.resolve_left (by have := binade_pos; omega)
    simp [rankOfRatio, hzero, hm0, he']
  · have hm0 : 0 < m := by
      rcases Nat.eq_zero_or_pos m with rfl | hpos
      · rw [Nat.cast_zero, zero_mul, div_eq_zero_iff] at hvalue
        exact absurd (by exact_mod_cast hvalue.resolve_right hden') hzero
      · exact hpos
    have hlog : max (floorLog2 num den - 52) (-1074) = e := by
      rw [floorLog2_eq_log (Nat.pos_of_ne_zero hzero) hden, hvalue]
      have hle := log_le_of_lt (e := e) hm0 hm
      rcases hnormal with hge | rfl
      · have hge' := le_log_of_le (e := e) hge
        omega
      · omega
    have hround : roundHalfEven (scaleDown num den e).1 (scaleDown num den e).2 = m := by
      have hpos := scaleDown_den_pos num hden e
      have hpos' : ((scaleDown num den e).2 : ℚ) ≠ 0 := by exact_mod_cast Nat.ne_of_gt hpos
      have hscaled := scaleDown_div num hden e
      rw [hvalue, mul_div_assoc, div_self hpow, mul_one, div_eq_iff hpos'] at hscaled
      rw [← roundHalfEven_one m]
      refine roundHalfEven_congr hpos (by decide) ?_
      rw [Nat.mul_one]
      exact_mod_cast hscaled
    simp only [rankOfRatio, if_neg hzero, hlog, hround]

/-- The value of a magnitude. -/
theorem ratio_value (rank : Nat) :
    ((ratio rank).1 : ℚ) / (ratio rank).2 = significand rank * 2 ^ exponent rank := by
  unfold ratio
  rw [scaleDown_div _ (by decide), Nat.cast_one, div_one, zpow_neg, div_inv_eq_mul]

/-- What is nearest to the value of a magnitude is that magnitude. -/
theorem rankOfRatio_of_value {rank num den : Nat} (hrank : rank < infinityRank) (hden : 0 < den)
    (hvalue : (num : ℚ) / den = significand rank * 2 ^ exponent rank) :
    rankOfRatio num den = rank := by
  have hpos := binade_pos
  by_cases hsub : rank < binade
  · have hs : significand rank = rank := if_pos hsub
    have he : exponent rank = -1074 := if_pos hsub
    rw [rankOfRatio_eq hden hvalue (by omega) (by omega) (Or.inr he), he, hs]
    simp
    omega
  · have hs : significand rank = binade + rank % binade := if_neg hsub
    have he : exponent rank = (rank / binade : Nat) - 1075 := if_neg hsub
    have hmod := Nat.mod_lt rank hpos
    have hdiv : 0 < rank / binade := Nat.div_pos (by omega) hpos
    rw [rankOfRatio_eq hden hvalue (by omega) (by omega) (Or.inl (by omega)), he, hs]
    have hq : ((rank / binade : Nat) - 1075 + 1074 : Int).toNat = rank / binade - 1 := by omega
    rw [hq]
    have hsum : (rank / binade - 1) * binade + (binade + rank % binade) = rank := by
      obtain ⟨q, hq'⟩ : ∃ q, rank / binade = q + 1 := ⟨rank / binade - 1, by omega⟩
      have hmain := Nat.div_add_mod rank binade
      rw [hq'] at hmain ⊢
      rw [Nat.add_sub_cancel]
      rw [Nat.mul_comm binade, Nat.succ_mul] at hmain
      omega
    rw [hsum]
    omega

/-! ### Decimals -/

theorem digitCount_pos (n : Nat) : 0 < digitCount n := Nat.length_toDigits_pos

theorem digitCount_le_iff {n k : Nat} (hk : 0 < k) : digitCount n ≤ k ↔ n < 10 ^ k :=
  Nat.length_toDigits_le_iff (by decide) hk

theorem digitCount_mul_ten {m : Nat} (hm : 0 < m) : digitCount (10 * m) = digitCount m + 1 := by
  have happend := Nat.toDigits_append_toDigits (b := 10) (d := 0) (by decide) hm (by decide)
  rw [Nat.add_zero] at happend
  rw [digitCount, digitCount, ← happend, List.length_append]
  rfl

theorem ofRatio_congr {a b c d : Nat} (negative : Bool) (hb : 0 < b) (hd : 0 < d)
    (h : (a : ℚ) / b = c / d) : ofRatio negative a b = ofRatio negative c d := by
  have hb' : (b : ℚ) ≠ 0 := by exact_mod_cast Nat.ne_of_gt hb
  have hd' : (d : ℚ) ≠ 0 := by exact_mod_cast Nat.ne_of_gt hd
  rw [div_eq_div_iff hb' hd'] at h
  simp only [ofRatio, rankOfRatio_congr hb hd (by exact_mod_cast h)]

/-- **A decimal that is neither too large nor too small is read by its value.** -/
theorem ofDecimal_of_range {m num den : Nat} {e : Int} (hm : 0 < m) (hden : 0 < den)
    (hhigh : (digitCount m : Int) + e ≤ 310) (hlow : -400 ≤ (digitCount m : Int) + e)
    (hvalue : (num : ℚ) / den = m * 10 ^ e) (negative : Bool) :
    ofDecimal negative m e = ofRatio negative num den := by
  unfold ofDecimal
  rw [if_neg (by omega), if_neg (by omega), if_neg (by omega)]
  split
  · rename_i he
    obtain ⟨k, rfl⟩ := Int.eq_ofNat_of_zero_le he
    refine ofRatio_congr negative (by decide) hden ?_
    rw [hvalue, Int.toNat_natCast, Nat.pow_eq, zpow_natCast]
    push_cast
    rw [div_one]
  · rename_i he
    obtain ⟨k, rfl⟩ : ∃ k : Nat, e = -(k : Int) := ⟨(-e).toNat, by omega⟩
    refine ofRatio_congr negative (Nat.pow_pos (by decide)) hden ?_
    rw [hvalue, neg_neg, Int.toNat_natCast, Nat.pow_eq, zpow_neg, zpow_natCast]
    push_cast
    rw [div_eq_mul_inv]

theorem exists_ratio (m : Nat) (e : Int) :
    ∃ num den : Nat, 0 < den ∧ (num : ℚ) / den = m * 10 ^ e := by
  refine ⟨m * 10 ^ e.toNat, 10 ^ (-e).toNat, Nat.pow_pos (by decide), ?_⟩
  have he : e = (e.toNat : Int) - ((-e).toNat : Int) := by omega
  conv_rhs => rw [he, zpow_sub₀ (by norm_num), zpow_natCast, zpow_natCast]
  push_cast
  ring

/-- **A zero at the end of the digits counts in the exponent.** -/
theorem ofDecimal_mul_ten {m : Nat} (hm : 0 < m) (negative : Bool) (e : Int) :
    ofDecimal negative (10 * m) e = ofDecimal negative m (e + 1) := by
  have hcount : (digitCount (10 * m) : Int) + e = digitCount m + (e + 1) := by
    rw [digitCount_mul_ten hm]
    push_cast
    ring
  have hne : m ≠ 0 := Nat.ne_of_gt hm
  by_cases hhigh : 310 < (digitCount m : Int) + (e + 1)
  · simp [ofDecimal, hcount, hhigh, hne]
  by_cases hlow : (digitCount m : Int) + (e + 1) < -400
  · simp [ofDecimal, hcount, hhigh, hlow, hne]
  -- in between both are read by their value, which is the same
  obtain ⟨num, den, hden, hvalue⟩ := exists_ratio m (e + 1)
  have hten : (num : ℚ) / den = (10 * m : Nat) * 10 ^ e := by
    rw [hvalue, zpow_add₀ (by norm_num)]
    push_cast
    ring
  rw [ofDecimal_of_range (by omega) hden (by omega) (by omega) hten negative,
    ofDecimal_of_range hm hden (by omega) (by omega) hvalue negative]

theorem ofDecimal_mul_pow {m : Nat} (hm : 0 < m) (negative : Bool) (k : Nat) (e : Int) :
    ofDecimal negative (m * 10 ^ k) e = ofDecimal negative m (e + k) := by
  induction k generalizing e with
  | zero => simp
  | succ k ih =>
    have hpos : 0 < m * 10 ^ k := Nat.mul_pos hm (Nat.pow_pos (by decide))
    rw [pow_succ, ← mul_assoc, mul_comm, ofDecimal_mul_ten hpos, ih]
    congr 1
    push_cast
    ring

theorem ofDecimal_trim (negative : Bool) : ∀ (fuel : Nat) (d : Decimal),
    ofDecimal negative (d.trim fuel).digits (d.trim fuel).e = ofDecimal negative d.digits d.e
  | 0, _ => rfl
  | fuel + 1, d => by
    rw [Decimal.trim]
    split
    · rename_i h
      simp only [Bool.and_eq_true, decide_eq_true_eq] at h
      obtain ⟨hmod, hne⟩ := h
      rw [ofDecimal_trim negative fuel]
      have hten : 10 * (d.digits / 10) = d.digits := by omega
      have hstep := ofDecimal_mul_ten (m := d.digits / 10) (by omega) negative d.e
      rw [hten] at hstep
      exact hstep.symm
    · rfl

/-- The sign of a decimal is the sign of the number. -/
theorem ofDecimal_of_false {m : Nat} {e : Int} {sign : Bool} {rank : Fin (infinityRank + 1)}
    (h : ofDecimal false m e = .number sign rank) (negative : Bool) :
    ofDecimal negative m e = .number negative rank := by
  unfold ofDecimal at h ⊢
  split_ifs at h ⊢
  all_goals
    cases h
    rfl

/-! ### Texts that read back -/

theorem significand_pos {rank : Nat} (h : 0 < rank) : 0 < significand rank := by
  have hpos := binade_pos
  unfold significand
  split <;> omega

theorem significand_lt (rank : Nat) : significand rank < 2 * binade := by
  have hmod := Nat.mod_lt rank binade_pos
  unfold significand
  split <;> omega

theorem exponent_bounds {rank : Nat} (h : rank < infinityRank) :
    -1074 ≤ exponent rank ∧ exponent rank ≤ 971 := by
  have hpos := binade_pos
  unfold exponent
  split
  · omega
  · have hdiv : 0 < rank / binade := Nat.div_pos (by omega) hpos
    have hlt : rank / binade < 2047 := (Nat.div_lt_iff_lt_mul hpos).mpr h
    omega

/-- The digits of a whole magnitude are not too many to be read. -/
theorem digitCount_whole_le {m k : Nat} (hm : m < 2 * binade) (hk : k ≤ 971) :
    digitCount (m * 2 ^ k) ≤ 310 := by
  rw [digitCount_le_iff (by decide)]
  calc m * 2 ^ k ≤ (2 * binade) * 2 ^ k := Nat.mul_le_mul_right _ hm.le
    _ ≤ (2 * binade) * 2 ^ 971 := Nat.mul_le_mul_left _ (Nat.pow_le_pow_right (by decide) hk)
    _ < 10 ^ 310 := by decide +kernel

theorem unitsOfOne_le : unitsOfOne ≤ 10 ^ 400 := by decide +kernel

/-- The digits of a magnitude with a fraction are not too many to be read. -/
theorem digitCount_fraction_le {m k : Nat} (hm : m < 2 * binade) :
    digitCount (m * 5 ^ k) ≤ 310 + k := by
  have hm' : m < 10 ^ 310 := hm.trans (by decide +kernel)
  have hk : 5 ^ k ≤ 10 ^ k := Nat.pow_le_pow_left (by decide) k
  rw [digitCount_le_iff (by omega), pow_add]
  calc m * 5 ^ k ≤ m * 10 ^ k := Nat.mul_le_mul_left _ hk
    _ < 10 ^ 310 * 10 ^ k := Nat.mul_lt_mul_of_pos_right hm' (Nat.pow_pos (by decide))

/-- Nor are they too few, as ten is two times five. -/
theorem lt_digitCount_fraction {m k j : Nat} (hpos : 0 < m) (htwo : 2 ^ k ≤ 10 ^ j) :
    k < digitCount (m * 5 ^ k) + j := by
  by_contra hlt
  have hcount := digitCount_pos (m * 5 ^ k)
  have hsmall : m * 5 ^ k < 10 ^ (k - j) := (digitCount_le_iff (by omega)).mp (by omega)
  have hcontra : 10 ^ k < 10 ^ k :=
    calc 10 ^ k = (2 * 5) ^ k := rfl
      _ = 2 ^ k * 5 ^ k := mul_pow 2 5 k
      _ ≤ 10 ^ j * (m * 5 ^ k) := Nat.mul_le_mul htwo (Nat.le_mul_of_pos_left _ hpos)
      _ < 10 ^ j * 10 ^ (k - j) := Nat.mul_lt_mul_of_pos_left hsmall (Nat.pow_pos (by decide))
      _ = 10 ^ k := by rw [← pow_add, Nat.add_sub_cancel' (by omega)]
  exact Nat.lt_irrefl _ hcontra

/-- **A magnitude with all its digits reads back.** -/
theorem ofDecimal_exactDecimal {rank : Nat} (hpos : 0 < rank) (hrank : rank < infinityRank)
    (negative : Bool) :
    ofDecimal negative (exactDecimal rank).digits (exactDecimal rank).e =
      .number negative ⟨rank, by omega⟩ := by
  have hsig := significand_pos hpos
  have hsig' := significand_lt rank
  obtain ⟨hlow, hhigh⟩ := exponent_bounds hrank
  have hvalue := ratio_value rank
  have hread : ofRatio negative (ratio rank).1 (ratio rank).2 = .number negative ⟨rank, by omega⟩ := by
    simp only [ofRatio, rankOfRatio_of_value hrank (ratio_den_pos rank) hvalue]
    congr 2
    omega
  rw [← hread]
  unfold exactDecimal
  simp only
  split
  · rename_i he
    obtain ⟨k, hk⟩ := Int.eq_ofNat_of_zero_le he
    have hcount := digitCount_whole_le hsig' (show k ≤ 971 by omega)
    rw [hk, zpow_natCast] at hvalue
    rw [hk, Int.toNat_natCast, Nat.pow_eq]
    dsimp only
    refine ofDecimal_of_range (by positivity) (ratio_den_pos rank) (by omega) (by omega) ?_ negative
    rw [hvalue]
    push_cast
    ring
  · rename_i he
    obtain ⟨k, hk⟩ : ∃ k : Nat, exponent rank = -(k : Int) := ⟨(-exponent rank).toNat, by omega⟩
    have hmany := digitCount_fraction_le (k := k) hsig'
    have hunit : k ≤ unitExponent := by rw [unitExponent]; omega
    have hfew := lt_digitCount_fraction hsig
      ((Nat.pow_le_pow_right (by decide) hunit).trans unitsOfOne_le)
    rw [hk, zpow_neg, zpow_natCast] at hvalue
    rw [hk, neg_neg, Int.toNat_natCast, Nat.pow_eq]
    dsimp only
    refine ofDecimal_of_range (by positivity) (ratio_den_pos rank) (by omega) (by omega) ?_ negative
    rw [hvalue, zpow_neg, zpow_natCast]
    have hten : (10 : ℚ) ^ k = 2 ^ k * 5 ^ k := by rw [← mul_pow]; norm_num
    rw [hten]
    push_cast
    field_simp

theorem eq_of_readsAs {rank : Nat} {d : Decimal} (h : readsAs rank d) (hrank : rank < infinityRank)
    (negative : Bool) :
    ofDecimal negative d.digits d.e = .number negative ⟨rank, by omega⟩ := by
  unfold readsAs at h
  cases hread : ofDecimal false d.digits d.e with
  | nan => rw [hread] at h; cases h
  | number sign found =>
    rw [hread, beq_iff_eq] at h
    rw [ofDecimal_of_false hread negative]
    congr 1
    exact Fin.ext h

/-- **The shortest decimal of a magnitude reads back as that magnitude.** -/
theorem ofDecimal_shortest {rank : Nat} (hpos : 0 < rank) (hrank : rank < infinityRank)
    (negative : Bool) :
    ofDecimal negative (shortest rank).digits (shortest rank).e =
      .number negative ⟨rank, by omega⟩ := by
  unfold shortest
  simp only [ofDecimal_trim]
  cases hfound : List.find? (readsAs rank) ((List.range 17).flatMap fun k : Nat =>
      neighbours (ratio rank).1 (ratio rank).2 (floorLog10 (ratio rank).1 (ratio rank).2 - k)) with
  | none => exact ofDecimal_exactDecimal hpos hrank negative
  | some d => exact eq_of_readsAs (List.find?_some hfound) hrank negative

/-- The shortest decimal of a magnitude is not zero. -/
theorem digits_shortest_pos {rank : Nat} (hpos : 0 < rank) (hrank : rank < infinityRank) :
    0 < (shortest rank).digits := by
  by_contra hzero
  have hread := ofDecimal_shortest hpos hrank false
  rw [ofDecimal, if_pos (by omega)] at hread
  have hrank0 : rank = 0 := by simpa [zero, eq_comm] using hread
  omega

end Binary64

end TwinQuery
