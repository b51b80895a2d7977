import Mathlib.Data.Int.Order.Basic
import Mathlib.Data.Prod.Lex
import Mathlib.Order.Compare
import SymbolSearch.Number

namespace SymbolSearch.Proofs.Doubles

open Decimal
open Float.Model
open Float.Model.UnpackedFloat

theorem unpackExponent_toNat (b : BitVec Format.binary64.numBits) :
    (unpackExponent b).toNat = b.toNat / powerOfTwo 52 % powerOfTwo 11 := by
  simp [unpackExponent, powerOfTwo, Nat.shiftRight_eq_div_pow]

theorem unpackMantissa_toNat (b : BitVec Format.binary64.numBits) :
    (unpackMantissa b).toNat = b.toNat % powerOfTwo 52 := by
  simp [unpackMantissa, powerOfTwo]

theorem unpackExponent_eq_ones_iff (b : BitVec Format.binary64.numBits) :
    unpackExponent b = -1#_ ↔ b.toNat / powerOfTwo 52 % powerOfTwo 11 = 2047 := by
  rw [← unpackExponent_toNat, ← BitVec.toNat_inj]
  rfl

theorem unpackExponent_eq_zero_iff (b : BitVec Format.binary64.numBits) :
    unpackExponent b = 0#_ ↔ b.toNat / powerOfTwo 52 % powerOfTwo 11 = 0 := by
  rw [← unpackExponent_toNat, ← BitVec.toNat_inj]
  rfl

theorem unpackMantissa_eq_zero_iff (b : BitVec Format.binary64.numBits) :
    unpackMantissa b = 0#_ ↔ b.toNat % powerOfTwo 52 = 0 := by
  rw [← unpackMantissa_toNat, ← BitVec.toNat_inj]
  rfl

/-- The two readings of a double: the class that arithmetic sorts it into, and its exact value. -/
inductive SameClass : UnpackedFloat → Binary → Prop
  | nan : SameClass .notANumber .nan
  | infinite (s : Sign) (negative : Bool) : SameClass (.infinity s) (.infinite negative)
  | zero (s : Sign) (negative : Bool) : SameClass (.zero s) (.finite negative 0 (-1074))
  | finite (s : Sign) (m : Nat) (e : Int) (h : 0 < m) (negative : Bool) (n : Nat) (f : Int) :
      SameClass (.finite s m e h) (.finite negative n f)

theorem sameClass_unpack (x : Float) : SameClass x.toModel.unpack (Binary.ofFloat x) := by
  let b : BitVec Format.binary64.numBits := x.toBits.toBitVec
  have hones := unpackExponent_eq_ones_iff b
  have hsubnormal := unpackExponent_eq_zero_iff b
  have hmantissa := unpackMantissa_eq_zero_iff b
  change SameClass (UnpackedFloat.unpack Format.binary64 b) _
  have hbits : x.toBits.toNat = b.toNat := rfl
  delta UnpackedFloat.unpack
  rw [Binary.ofFloat, hbits]
  dsimp only
  by_cases hmax : unpackExponent b = -1#_
  · rw [if_pos hmax, if_pos (beq_iff_eq.mpr (hones.mp hmax))]
    by_cases hzero : unpackMantissa b = 0#_
    · rw [if_pos hzero, if_pos (beq_iff_eq.mpr (hmantissa.mp hzero))]
      exact .infinite _ _
    · rw [if_neg hzero, if_neg (fun hz => hzero (hmantissa.mpr (beq_iff_eq.mp hz)))]
      exact .nan
  · rw [if_neg hmax, if_neg (fun ho => hmax (hones.mpr (beq_iff_eq.mp ho)))]
    by_cases hmin : unpackExponent b = 0#_
    · rw [if_pos hmin, if_pos (beq_iff_eq.mpr (hsubnormal.mp hmin))]
      by_cases hzero : unpackMantissa b = 0#_
      · rw [dif_pos hzero, hmantissa.mp hzero]
        exact .zero _ _
      · rw [dif_neg hzero]
        exact .finite ..
    · rw [if_neg hmin, if_neg (fun he => hmin (hsubnormal.mpr (beq_iff_eq.mp he)))]
      exact .finite ..

theorem isNaN_eq_true_iff (x : Float) : x.isNaN = true ↔ Binary.ofFloat x = .nan := by
  have hclass := sameClass_unpack x
  change x.toModel.unpack.isNaN = true ↔ _
  generalize x.toModel.unpack = u at hclass
  generalize Binary.ofFloat x = v at hclass
  cases hclass with
  | nan => exact iff_of_true rfl rfl
  | infinite _ _ => exact iff_of_false Bool.false_ne_true nofun
  | zero _ _ => exact iff_of_false Bool.false_ne_true nofun
  | finite _ _ _ _ _ _ _ => exact iff_of_false Bool.false_ne_true nofun

theorem ofFloat_of_beq_zero {x : Float} (h : (x == 0) = true) :
    ∃ negative, Binary.ofFloat x = .finite negative 0 (-1074) := by
  have hzero : (0 : Float).toModel.unpack = .zero .positive := by rfl
  change (x.toModel.unpack.compare (0 : Float).toModel.unpack == some .eq) = true at h
  rw [hzero] at h
  have hclass := sameClass_unpack x
  generalize x.toModel.unpack = u at h hclass
  generalize Binary.ofFloat x = v at hclass
  cases hclass with
  | nan => cases h
  | infinite s negative => cases s <;> cases h
  | zero s negative => exact ⟨negative, rfl⟩
  | finite s m e hm negative n f => cases s <;> cases h

section Order

variable {x y z : Float}

/-- Where a double stands among the others: by its class, and a finite one by its exponent and then
its mantissa. -/
def standing : UnpackedFloat → Option (Int ×ₗ Int ×ₗ Int)
  | .notANumber => none
  | .infinity .negative => some (toLex (-2, toLex (0, 0)))
  | .finite .negative m e _ => some (toLex (-1, toLex (-e, -(m : Int))))
  | .zero _ => some (toLex (0, toLex (0, 0)))
  | .finite .positive m e _ => some (toLex (1, toLex (e, (m : Int))))
  | .infinity .positive => some (toLex (2, toLex (0, 0)))

theorem compare_eq_lt_iff (a b : UnpackedFloat) :
    a.compare b = some .lt ↔ ∃ p ∈ standing a, ∃ q ∈ standing b, p < q := by
  rcases a with ⟨⟨⟩⟩ | _ | _ | ⟨⟨⟩, m, e, -⟩ <;> rcases b with ⟨⟨⟩⟩ | _ | _ | ⟨⟨⟩, n, f, -⟩
  all_goals dsimp only [UnpackedFloat.compare, standing]
  all_goals simp [Prod.Lex.toLex_lt_toLex, Ordering.then_eq_lt, Ordering.then_eq_gt,
    compare_lt_iff_lt, compare_gt_iff_gt]
  rfl

theorem lt_iff_standing :
    x < y ↔ ∃ p ∈ standing x.toModel.unpack, ∃ q ∈ standing y.toModel.unpack, p < q := by
  rw [← compare_eq_lt_iff, ← beq_iff_eq]
  exact decide_eq_true_iff

theorem not_lt_self (x : Float) : ¬x < x := by
  rw [lt_iff_standing]
  rintro ⟨p, hp, q, hq, hlt⟩
  obtain rfl : p = q := Option.mem_unique hp hq
  exact lt_irrefl p hlt

theorem lt_trans_float (hxy : x < y) (hyz : y < z) : x < z := by
  rw [lt_iff_standing] at hxy hyz ⊢
  obtain ⟨p, hp, q, hq, hpq⟩ := hxy
  obtain ⟨q', hq', r, hr, hqr⟩ := hyz
  obtain rfl : q = q' := Option.mem_unique hq hq'
  exact ⟨p, hp, r, hr, hpq.trans hqr⟩

end Order

end SymbolSearch.Proofs.Doubles
