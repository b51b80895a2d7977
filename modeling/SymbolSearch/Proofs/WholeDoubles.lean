import Mathlib.Tactic.ByContra
import SymbolSearch.Number

namespace SymbolSearch.Proofs.WholeDoubles

open Decimal

section Rounding

/-- The fraction `num / den` divided by a power of two. -/
def scaledBy (num den : Nat) (e : Int) : Nat × Nat :=
  if 0 ≤ e then (num, den * powerOfTwo e.toNat) else (num * powerOfTwo (-e).toNat, den)

/-- The power of two that leaves a positive fraction with the leading bits of a double. -/
def leadingScale (num den : Nat) : Int :=
  Int.ofNat num.log2 - Int.ofNat den.log2 - 52

/-- The exponent at which a positive fraction is rounded. -/
def roundingExponent (num den : Nat) : Int :=
  let scaled := scaledBy num den (leadingScale num den)
  max (-1074)
    (if scaled.1 / scaled.2 < powerOfTwo 52 then leadingScale num den - 1
      else leadingScale num den)

/-- A positive fraction rounded at its exponent. -/
def rounded (num den : Nat) : Nat :=
  let scaled := scaledBy num den (roundingExponent num den)
  roundDiv scaled.1 scaled.2

/-- Mantissa and exponent after rounding, which may need one bit more. -/
def carried (num den : Nat) : Nat × Int :=
  if rounded num den == powerOfTwo 53 then (powerOfTwo 52, roundingExponent num den + 1)
  else (rounded num den, roundingExponent num den)

theorem nearestBits?_eq (num den : Nat) :
    nearestBits? num den =
      if num == 0 then some 0
      else if 971 < (carried num den).2 then none
      else if (carried num den).1 < powerOfTwo 52 then some (carried num den).1
      else some (((carried num den).2 + 1075).toNat * powerOfTwo 52 +
        ((carried num den).1 - powerOfTwo 52)) := rfl

theorem exists_nearestBits? {num den : Nat} (h : (carried num den).2 ≤ 971) :
    ∃ bits, nearestBits? num den = some bits := by
  rw [nearestBits?_eq]
  split
  · exact ⟨_, rfl⟩
  · rw [if_neg (by omega)]
    split <;> exact ⟨_, rfl⟩

theorem roundDiv_le {num den k : Nat} (h : 2 * num < 2 * (k * den) + den) :
    roundDiv num den ≤ k := by
  have hdecompose : num / den * den + num % den = num := Nat.div_add_mod' num den
  have hquotient : num / den ≤ k := by
    by_contra hlt
    have hle : (k + 1) * den ≤ num / den * den := Nat.mul_le_mul_right den (by omega)
    rw [Nat.add_mul] at hle
    omega
  rw [roundDiv]
  by_cases hk : num / den = k
  · rw [hk] at hdecompose
    have hremainder : 2 * (num % den) < den := by omega
    rw [if_pos hremainder]
    exact hquotient
  · split
    · exact hquotient
    · split <;> omega

theorem le_roundDiv {num den k : Nat} (hden : 0 < den) (hk : k % 2 = 0)
    (h : 2 * (k * den) ≤ 2 * num + den) : k ≤ roundDiv num den := by
  have hdecompose : num / den * den + num % den = num := Nat.div_add_mod' num den
  have hremainder : num % den < den := Nat.mod_lt num hden
  have hquotient : k ≤ num / den + 1 := by
    by_contra hlt
    have hle : (num / den + 2) * den ≤ k * den := Nat.mul_le_mul_right den (by omega)
    rw [Nat.add_mul] at hle
    omega
  rw [roundDiv]
  by_cases hlast : k = num / den + 1
  · have hhalf : den ≤ 2 * (num % den) := by
      rw [hlast, Nat.add_mul] at h
      omega
    split
    · omega
    · split <;> omega
  · split
    · omega
    · split <;> omega

end Rounding

section Integers

/-- The largest finite double. -/
def largest : Nat :=
  (powerOfTwo 53 - 1) * powerOfTwo 971

/-- The first whole number without a nearest double, in the middle between the largest one and the
next power of two. -/
def firstBeyond : Nat :=
  (powerOfTwo 54 - 1) * powerOfTwo 970

theorem powerOfTwo_pos (n : Nat) : 0 < powerOfTwo n :=
  Nat.pow_pos (by decide)

theorem powerOfTwo_add (m n : Nat) : powerOfTwo (m + n) = powerOfTwo m * powerOfTwo n :=
  Nat.pow_add 2 m n

theorem powerOfTwo_le {m n : Nat} (h : m ≤ n) : powerOfTwo m ≤ powerOfTwo n :=
  Nat.pow_le_pow_right (by decide) h

theorem log2_lt_of_lt_powerOfTwo {num n : Nat} (hn : 0 < n) (h : num < powerOfTwo n) :
    num.log2 < n := by
  by_cases hzero : num = 0
  · rw [hzero]
    exact hn
  · exact (Nat.log2_lt hzero).mpr h

theorem le_log2_of_powerOfTwo_le {num n : Nat} (h : powerOfTwo n ≤ num) : n ≤ num.log2 :=
  (Nat.le_log2 (Nat.ne_of_gt (Nat.lt_of_lt_of_le (powerOfTwo_pos n) h))).mpr h

theorem leadingScale_one (num : Nat) : leadingScale num 1 = num.log2 - 52 := by
  have hone : Nat.log2 1 = 0 := by decide
  rw [leadingScale, hone]
  simp

theorem roundingExponent_one {num : Nat} (h : powerOfTwo 52 ≤ num) :
    roundingExponent num 1 = num.log2 - 52 := by
  have hpos : num ≠ 0 := Nat.ne_of_gt (Nat.lt_of_lt_of_le (powerOfTwo_pos 52) h)
  have hlog : 52 ≤ num.log2 := le_log2_of_powerOfTwo_le h
  have hscaled : ¬num / (1 * powerOfTwo ((num.log2 : Int) - 52).toNat) < powerOfTwo 52 := by
    have hself : powerOfTwo num.log2 ≤ num := Nat.log2_self_le hpos
    have hsplit : num.log2 = 52 + ((num.log2 : Int) - 52).toNat := by omega
    rw [hsplit, powerOfTwo_add] at hself
    rw [Nat.one_mul, Nat.not_lt, Nat.le_div_iff_mul_le (powerOfTwo_pos _)]
    exact hself
  have hscale : scaledBy num 1 ((num.log2 : Int) - 52) =
      (num, 1 * powerOfTwo ((num.log2 : Int) - 52).toNat) := if_pos (by omega)
  rw [roundingExponent, leadingScale_one, hscale]
  dsimp only
  rw [if_neg hscaled]
  omega

theorem rounded_one {num : Nat} {e : Nat} (h : roundingExponent num 1 = e) :
    rounded num 1 = roundDiv num (powerOfTwo e) := by
  rw [rounded, h, scaledBy, if_pos (by omega), Int.toNat_natCast, Nat.one_mul]

theorem powerOfTwo_succ (n : Nat) : powerOfTwo (n + 1) = 2 * powerOfTwo n := by
  rw [powerOfTwo_add, Nat.mul_comm]
  rfl

theorem two_mul_firstBeyond :
    2 * firstBeyond + powerOfTwo 971 = 2 * powerOfTwo 1024 := by
  have hscaled : 2 * firstBeyond = (powerOfTwo 54 - 1) * powerOfTwo 971 := by
    rw [firstBeyond, Nat.mul_left_comm, ← powerOfTwo_succ]
  have htop : powerOfTwo 54 * powerOfTwo 971 = 2 * powerOfTwo 1024 := by
    rw [← powerOfTwo_add, ← powerOfTwo_succ]
  have hpos : 1 * powerOfTwo 971 ≤ powerOfTwo 54 * powerOfTwo 971 :=
    Nat.mul_le_mul_right _ (powerOfTwo_pos 54)
  rw [hscaled, Nat.sub_mul, ← htop]
  omega

theorem roundingExponent_le {num : Nat} (h : num < powerOfTwo 1024) :
    roundingExponent num 1 ≤ 971 := by
  have hlog := log2_lt_of_lt_powerOfTwo (by decide) h
  have hscale : leadingScale num 1 ≤ 971 := by
    rw [leadingScale_one]
    omega
  rw [roundingExponent]
  split <;> omega

/-- Rounding a whole number needs an exponent that no double has from `firstBeyond` on. -/
theorem carried_le_iff (num : Nat) : (carried num 1).2 ≤ 971 ↔ num < firstBeyond := by
  have hmiddle := two_mul_firstBeyond
  have htop : powerOfTwo 53 * powerOfTwo 971 = powerOfTwo 1024 := (powerOfTwo_add 53 971).symm
  have hpos := powerOfTwo_pos 971
  constructor
  · intro h
    by_contra hle
    have hlow : powerOfTwo 1023 ≤ num := by
      have hhalf : powerOfTwo 1024 = 2 * powerOfTwo 1023 := powerOfTwo_succ 1023
      have hunit : powerOfTwo 971 ≤ powerOfTwo 1024 := powerOfTwo_le (by decide)
      omega
    have hlog : 1023 ≤ num.log2 := le_log2_of_powerOfTwo_le hlow
    have hexponent := roundingExponent_one
      (Nat.le_trans (powerOfTwo_le (by decide : 52 ≤ 1023)) hlow)
    by_cases hlast : num.log2 = 1023
    · -- The mantissa is rounded up to a power of two, which costs one more exponent.
      have hat : roundingExponent num 1 = (971 : Nat) := by omega
      have hhigh : num < powerOfTwo 1024 := by
        have hself : num < powerOfTwo (num.log2 + 1) := Nat.lt_log2_self
        rwa [hlast] at hself
      have hrounded : rounded num 1 = powerOfTwo 53 := by
        rw [rounded_one hat]
        refine Nat.le_antisymm (roundDiv_le ?_) (le_roundDiv hpos (by decide) ?_)
        · omega
        · omega
      simp [carried, hrounded, hat] at h
    · rw [carried] at h
      split at h <;> dsimp only at h <;> omega
  · intro h
    have hexponent : roundingExponent num 1 ≤ 971 := roundingExponent_le (by omega)
    by_cases hlast : roundingExponent num 1 = (971 : Nat)
    · -- At the largest exponent rounding stays below the next power of two.
      have hrounded : rounded num 1 ≤ powerOfTwo 53 - 1 := by
        rw [rounded_one hlast]
        apply roundDiv_le
        rw [Nat.sub_mul]
        omega
      have hcarry : (rounded num 1 == powerOfTwo 53) = false := by
        rw [beq_eq_false_iff_ne]
        have hpos := powerOfTwo_pos 53
        omega
      simp only [carried, hcarry, hlast, Bool.false_eq_true, if_false]
      decide
    · rw [carried]
      split <;> dsimp only <;> omega

theorem exists_floatOfInt_iff {n : Int} :
    (∃ x, Number.floatOfInt n = .ok x) ↔ n.natAbs < firstBeyond := by
  rw [← carried_le_iff]
  constructor
  · rintro ⟨x, hx⟩
    by_contra hbeyond
    have hzero : (n.natAbs == 0) = false := by
      rw [beq_eq_false_iff_ne]
      intro hzero
      rw [hzero] at hbeyond
      exact hbeyond (by decide)
    rw [Number.floatOfInt, floatOfFraction?, nearestBits?_eq, hzero, if_neg Bool.false_ne_true,
      if_pos (by omega)] at hx
    cases hx
  · intro h
    obtain ⟨bits, hbits⟩ := exists_nearestBits? h
    refine ⟨floatOfBits (decide (n < 0)) bits, ?_⟩
    rw [Number.floatOfInt, floatOfFraction?, hbits]
    rfl

theorem exists_floatOfInt {n : Int} (h : n.natAbs ≤ largest) :
    ∃ x, Number.floatOfInt n = .ok x := by
  rw [exists_floatOfInt_iff]
  refine Nat.lt_of_le_of_lt h ?_
  have hmiddle := two_mul_firstBeyond
  have hpos := powerOfTwo_pos 971
  have htop : powerOfTwo 53 * powerOfTwo 971 = powerOfTwo 1024 := (powerOfTwo_add 53 971).symm
  have hunit : powerOfTwo 971 ≤ powerOfTwo 1024 := powerOfTwo_le (by decide)
  rw [largest, Nat.sub_mul, htop]
  omega

theorem ofFloat_bounds {x : Float} {negative : Bool} {mantissa : Nat} {exponent : Int}
    (h : Binary.ofFloat x = .finite negative mantissa exponent) :
    mantissa ≤ powerOfTwo 53 - 1 ∧ exponent ≤ 971 := by
  have hfraction : x.toBits.toNat % powerOfTwo 52 < powerOfTwo 52 :=
    Nat.mod_lt _ (powerOfTwo_pos 52)
  have hexponent : x.toBits.toNat / powerOfTwo 52 % powerOfTwo 11 < 2048 :=
    Nat.mod_lt _ (by decide)
  have hdouble : powerOfTwo 53 = 2 * powerOfTwo 52 := rfl
  rw [Binary.ofFloat] at h
  simp only [beq_iff_eq] at h
  split at h
  · split at h <;> cases h
  · split at h
    · obtain ⟨-, rfl, rfl⟩ := Binary.finite.inj h
      omega
    · obtain ⟨-, rfl, rfl⟩ := Binary.finite.inj h
      simp only [Int.ofNat_eq_natCast]
      omega

theorem quotient_fractionOf_le {mantissa : Nat} {exponent : Int}
    (hmantissa : mantissa ≤ powerOfTwo 53 - 1) (hexponent : exponent ≤ 971) :
    (fractionOf mantissa exponent).1 / (fractionOf mantissa exponent).2 ≤ largest := by
  rw [fractionOf]
  split
  · rw [Nat.div_one]
    exact Nat.mul_le_mul hmantissa (powerOfTwo_le (by omega))
  · refine Nat.le_trans (Nat.div_le_self _ _) (Nat.le_trans hmantissa ?_)
    exact Nat.le_mul_of_pos_right _ (powerOfTwo_pos 971)

theorem exists_floatOfInt_truncate (x : Float) :
    ∃ y, Number.floatOfInt (truncate x) = .ok y := by
  apply exists_floatOfInt
  cases hbinary : Binary.ofFloat x with
  | nan =>
      simp only [truncate, hbinary]
      exact Nat.zero_le _
  | infinite negative =>
      simp only [truncate, hbinary]
      exact Nat.zero_le _
  | finite negative mantissa exponent =>
      obtain ⟨hmantissa, hexponent⟩ := ofFloat_bounds hbinary
      have hle := quotient_fractionOf_le hmantissa hexponent
      simp only [truncate, hbinary, Int.ofNat_eq_natCast]
      split
      · rwa [Int.natAbs_neg, Int.natAbs_natCast]
      · rwa [Int.natAbs_natCast]

end Integers

end SymbolSearch.Proofs.WholeDoubles
