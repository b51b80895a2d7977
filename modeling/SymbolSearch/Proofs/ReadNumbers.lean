import Mathlib.Algebra.Group.Nat.Defs
import SymbolSearch.Proofs.JsonText

namespace SymbolSearch.Proofs.ReadNumbers

open JsonText
open Text

variable {cs : List Char} {n : Nat}

theorem digitValue?_of_isDigit {c : Char} (hc : c.isDigit = true) :
    digitValue? c = some (c.toNat - 48) := by
  have hlt : c.toNat < 128 := by
    simp only [Char.isDigit, Bool.and_eq_true, decide_eq_true_eq, ge_iff_le,
      UInt32.le_iff_toNat_le] at hc
    have hnine : '9'.val.toNat = 57 := rfl
    change c.val.toNat < 128
    omega
  rw [digitValue?, if_pos hlt, if_pos hc]

theorem isDecimal_of_isDigit {c : Char} (hc : c.isDigit = true) : isDecimal c = true := by
  rw [isDecimal, digitValue?_of_isDigit hc]
  rfl

/-- The number that some digits lead to, read on from a number. -/
def readOn (start : Option Nat) (cs : List Char) : Option Nat :=
  cs.foldl (fun acc c => do return (← acc) * 10 + (← digitValue? c)) start

theorem naturalOfDigits?_eq_readOn (h : cs ≠ []) : naturalOfDigits? cs = readOn (some 0) cs := by
  cases cs with
  | nil => exact absurd rfl h
  | cons c cs => rfl

theorem readOn_none (cs : List Char) : readOn none cs = none := by
  induction cs with
  | nil => rfl
  | cons c cs ih => exact ih

theorem readOn_cons (start : Nat) (c : Char) (cs : List Char) :
    readOn (some start) (c :: cs) = readOn ((digitValue? c).map (start * 10 + ·)) cs := by
  cases hc : digitValue? c <;> simp [readOn, hc]

theorem readOn_of_isDigit (hcs : ∀ c ∈ cs, c.isDigit = true) (start : Nat) :
    readOn (some start) cs = some (cs.foldl (fun acc c => acc * 10 + (c.toNat - 48)) start) := by
  induction cs generalizing start with
  | nil => rfl
  | cons c cs ih =>
      rw [readOn_cons, digitValue?_of_isDigit (hcs c (by simp))]
      exact ih (fun d hd => hcs d (by simp [hd])) _

theorem naturalOfDigits?_toDigits (n : Nat) : naturalOfDigits? (Nat.toDigits 10 n) = some n := by
  rw [naturalOfDigits?_eq_readOn Nat.toDigits_ne_nil,
    readOn_of_isDigit fun c => isDigit_of_mem_toDigits]
  exact congrArg some (digitsValue_toDigits n)

theorem digitValue?_lt {c : Char} {d : Nat} (h : digitValue? c = some d) : d < 10 := by
  rw [digitValue?] at h
  split at h
  · split at h
    · rename_i hdigit
      simp only [Char.isDigit, Bool.and_eq_true, decide_eq_true_eq, ge_iff_le,
        UInt32.le_iff_toNat_le] at hdigit
      have hnine : '9'.val.toNat = 57 := rfl
      obtain rfl := Option.some.inj h
      change c.val.toNat - 48 < 10
      omega
    · cases h
  · obtain ⟨run, -, rfl⟩ := Option.map_eq_some_iff.mp h
    exact Nat.mod_lt _ (by decide)

theorem lt_of_readOn {start : Nat} (h : readOn (some start) cs = some n) :
    n < (start + 1) * 10 ^ cs.length := by
  induction cs generalizing start with
  | nil =>
      obtain rfl := Option.some.inj h
      simp
  | cons c cs ih =>
      rw [readOn_cons] at h
      cases hc : digitValue? c with
      | none =>
          rw [hc] at h
          cases (readOn_none cs).symm.trans h
      | some d =>
          rw [hc] at h
          have hd := digitValue?_lt hc
          calc
            n < (start * 10 + d + 1) * 10 ^ cs.length := ih h
            _ ≤ (start + 1) * 10 * 10 ^ cs.length := Nat.mul_le_mul_right _ (by omega)
            _ = (start + 1) * 10 ^ (c :: cs).length := by
                rw [List.length_cons, Nat.pow_succ', Nat.mul_assoc]

theorem lt_of_naturalOfDigits? (h : naturalOfDigits? cs = some n) : n < 10 ^ cs.length := by
  have hne : cs ≠ [] := by
    rintro rfl
    cases h
  rw [naturalOfDigits?_eq_readOn hne] at h
  simpa using lt_of_readOn h

section Integers

open Decimal

end Integers

end SymbolSearch.Proofs.ReadNumbers
