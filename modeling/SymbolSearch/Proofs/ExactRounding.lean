import Mathlib.Tactic.Ring
import SymbolSearch.Proofs.ItemOrder

namespace SymbolSearch.Proofs.ExactRounding

open Decimal
open ItemOrder

/-- Where the rounded quotient stands: not above a number if the quotient is below the middle
between this number and the next, or in that middle and the number is even. -/
theorem roundDiv_le_iff {num den k : Nat} (hden : 0 < den) :
    roundDiv num den ≤ k ↔
      2 * num < (2 * k + 1) * den ∨ 2 * num = (2 * k + 1) * den ∧ k % 2 = 0 := by
  have hdecompose : num / den * den + num % den = num := Nat.div_add_mod' num den
  have hremainder : num % den < den := Nat.mod_lt num hden
  have hodd : (2 * k + 1) * den = 2 * (k * den) + den := by ring
  rw [roundDiv]
  rcases Nat.lt_trichotomy (num / den) k with hlt | heq | hgt
  · have hle : (num / den + 1) * den ≤ k * den := Nat.mul_le_mul_right den hlt
    rw [Nat.add_mul] at hle
    refine iff_of_true ?_ (.inl (by omega))
    split
    · omega
    · split <;> omega
  · rw [heq] at hdecompose
    split
    · omega
    · split <;> omega
  · have hle : (k + 1) * den ≤ num / den * den := Nat.mul_le_mul_right den hgt
    rw [Nat.add_mul] at hle
    refine iff_of_false ?_ (by omega)
    split
    · omega
    · split <;> omega

theorem roundDiv_le_roundDiv {num den num' den' : Nat} (hden : 0 < den) (hden' : 0 < den')
    (h : num * den' ≤ num' * den) : roundDiv num den ≤ roundDiv num' den' := by
  have hself := (roundDiv_le_iff hden').mp (Nat.le_refl (roundDiv num' den'))
  rw [roundDiv_le_iff hden]
  generalize roundDiv num' den' = k at hself
  rcases hself with hlt | ⟨heq, heven⟩
  · left
    have hscaled : 2 * num * den' < (2 * k + 1) * den * den' := by
      calc
        2 * num * den' = 2 * (num * den') := by ring
        _ ≤ 2 * (num' * den) := Nat.mul_le_mul_left 2 h
        _ = 2 * num' * den := by ring
        _ < (2 * k + 1) * den' * den := Nat.mul_lt_mul_of_pos_right hlt hden
        _ = (2 * k + 1) * den * den' := by ring
    exact Nat.lt_of_mul_lt_mul_right hscaled
  · have hscaled : 2 * num * den' ≤ (2 * k + 1) * den * den' := by
      calc
        2 * num * den' = 2 * (num * den') := by ring
        _ ≤ 2 * (num' * den) := Nat.mul_le_mul_left 2 h
        _ = 2 * num' * den := by ring
        _ = (2 * k + 1) * den * den' := by rw [heq]; ring
    have hle : 2 * num ≤ (2 * k + 1) * den := Nat.le_of_mul_le_mul_right hscaled hden'
    rcases Nat.lt_or_eq_of_le hle with hlt | heq
    · exact .inl hlt
    · exact .inr ⟨heq, heven⟩

theorem roundDiv_one (n : Nat) : roundDiv n 1 = n := by
  rw [roundDiv, Nat.div_one, Nat.mod_one, if_pos (by decide)]

/-- A rational number rounded to decimal places by the rule for doubles, a half to the even
neighbour. -/
def roundExact (places : Nat) (x : ℚ) : ℚ :=
  (if x < 0 then -1 else 1) * roundDiv (x.num.natAbs * powerOfTen places) x.den / powerOfTen places

theorem powerOfTen_pos (places : Nat) : 0 < powerOfTen places :=
  Nat.pow_pos (by decide)

theorem roundExact_of_nonneg {x : ℚ} (hx : 0 ≤ x) (places : Nat) :
    roundExact places x =
      roundDiv (x.num.natAbs * powerOfTen places) x.den / powerOfTen places := by
  rw [roundExact, if_neg (not_lt.mpr hx), one_mul]

theorem roundExact_le_roundExact {x y : ℚ} (hx : 0 ≤ x) (h : x ≤ y) (places : Nat) :
    roundExact places x ≤ roundExact places y := by
  have hy : 0 ≤ y := hx.trans h
  have hcross : x.num.natAbs * y.den ≤ y.num.natAbs * x.den := by
    have hnum : x.num * y.den ≤ y.num * x.den := (Rat.le_iff x y).mp h
    have hx' : (x.num.natAbs : ℤ) = x.num := Int.natAbs_of_nonneg (Rat.num_nonneg.mpr hx)
    have hy' : (y.num.natAbs : ℤ) = y.num := Int.natAbs_of_nonneg (Rat.num_nonneg.mpr hy)
    rw [← hx', ← hy'] at hnum
    exact_mod_cast hnum
  have hunits : roundDiv (x.num.natAbs * powerOfTen places) x.den ≤
      roundDiv (y.num.natAbs * powerOfTen places) y.den := by
    apply roundDiv_le_roundDiv x.den_pos y.den_pos
    calc
      x.num.natAbs * powerOfTen places * y.den = x.num.natAbs * y.den * powerOfTen places := by ring
      _ ≤ y.num.natAbs * x.den * powerOfTen places := Nat.mul_le_mul_right _ hcross
      _ = y.num.natAbs * powerOfTen places * x.den := by ring
  rw [roundExact_of_nonneg hx, roundExact_of_nonneg hy]
  exact div_le_div_of_nonneg_right (by exact_mod_cast hunits) (Nat.cast_nonneg _)

theorem roundExact_natCast (places n : Nat) : roundExact places n = n := by
  have hpos : (powerOfTen places : ℚ) ≠ 0 := Nat.cast_ne_zero.mpr (powerOfTen_pos places).ne'
  rw [roundExact_of_nonneg (Nat.cast_nonneg n), Rat.num_natCast, Rat.den_natCast,
    Int.natAbs_natCast, roundDiv_one, Nat.cast_mul, mul_div_assoc, div_self hpos, mul_one]

end SymbolSearch.Proofs.ExactRounding
