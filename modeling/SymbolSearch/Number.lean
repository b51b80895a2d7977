import SymbolSearch.Decimal.Shortest

namespace SymbolSearch

/-- What can go wrong in a computation with numbers. -/
inductive ArithmeticError
  | divisionByZero
  | realDivisionByZero
  | zeroToNegativePower
  | quotientTooLarge
  | integerTooLarge
  | powerTooLarge
  | nonrealPowerTooLarge
  | nonreal
  | wrongType (problem : String)
deriving Repr, DecidableEq

namespace ArithmeticError

/-- The wording of an error. -/
def message : ArithmeticError → String
  | .divisionByZero => "division by zero"
  | .realDivisionByZero => "float division by zero"
  | .zeroToNegativePower => "0.0 cannot be raised to a negative power"
  | .quotientTooLarge => "integer division result too large for a float"
  | .integerTooLarge => "int too large to convert to float"
  | .powerTooLarge => "(34, 'Numerical result out of range')"
  | .nonrealPowerTooLarge => "complex exponentiation"
  | .nonreal => "type complex doesn't define __round__ method"
  | .wrongType problem => problem

end ArithmeticError

/-- A number of a setting: an integer of any size or a double. A fractional power of a negative
number lies off the real line; of such a number nothing else is kept. -/
inductive Number
  | int (n : Int)
  | real (x : Float)
  | nonreal

namespace Number

open Decimal

/-- The double nearest to an integer. -/
def floatOfInt (n : Int) : Except ArithmeticError Float :=
  match floatOfFraction? (decide (n < 0)) n.natAbs 1 with
  | some x => .ok x
  | none => .error .integerTooLarge

/-- A number as a double; `none` off the real line. -/
def toFloat? : Number → Except ArithmeticError (Option Float)
  | .int n => do return some (← floatOfInt n)
  | .real x => .ok (some x)
  | .nonreal => .ok none

/-- Applies an operation on doubles to two numbers; the result is off the real line when one of them
is. -/
def onFloats (f : Float → Float → Except ArithmeticError Number) (a b : Number) :
    Except ArithmeticError Number := do
  match ← a.toFloat?, ← b.toFloat? with
  | some x, some y => f x y
  | _, _ => return .nonreal

/-- Addition, exact on integers. -/
def add : Number → Number → Except ArithmeticError Number
  | .int a, .int b => .ok (.int (a + b))
  | a, b => onFloats (fun x y => .ok (.real (x + y))) a b

/-- Subtraction, exact on integers. -/
def sub : Number → Number → Except ArithmeticError Number
  | .int a, .int b => .ok (.int (a - b))
  | a, b => onFloats (fun x y => .ok (.real (x - y))) a b

/-- Multiplication, exact on integers. -/
def mul : Number → Number → Except ArithmeticError Number
  | .int a, .int b => .ok (.int (a * b))
  | a, b => onFloats (fun x y => .ok (.real (x * y))) a b

/-- Division. The quotient of two integers is the double nearest to their exact quotient. -/
def div : Number → Number → Except ArithmeticError Number
  | .int a, .int b =>
      if b = 0 then .error .divisionByZero
      else
        match floatOfFraction? (decide (a < 0) != decide (b < 0)) a.natAbs b.natAbs with
        | some x => .ok (.real x)
        | none => .error .quotientTooLarge
  | a, b =>
      onFloats (fun x y =>
        if y == 0 then .error .realDivisionByZero else .ok (.real (x / y))) a b

/-- Whether a double is a whole number. -/
def isWhole (x : Float) : Bool :=
  isFinite x && x.floor == x

/-- Whether a double is an odd whole number. -/
def isOdd (x : Float) : Bool :=
  isWhole x && (truncate x) % 2 != 0

/-- A power of a finite base other than zero to a finite exponent other than zero. -/
def finitePower (x y : Float) : Except ArithmeticError Number :=
  let magnitude := x.abs.pow y
  let overflow := !isFinite magnitude
  if x < 0 && !isWhole y then
    if overflow then .error .nonrealPowerTooLarge else .ok .nonreal
  else if x.abs == 1 then .ok (.real (if x < 0 && isOdd y then -1 else 1))
  else if overflow then .error .powerTooLarge
  else .ok (.real (if x < 0 && isOdd y then -magnitude else magnitude))

/-- A power of doubles. An exponent of zero always gives one, and zero has no negative power. -/
def floatPower (x y : Float) : Except ArithmeticError Number :=
  if y == 0 then .ok (.real 1)
  else if x.isNaN then .ok (.real x)
  else if y.isNaN then .ok (.real (if x == 1 then 1 else y))
  else if y.isInf then
    if x.abs == 1 then .ok (.real 1)
    else if (0 < y) == (1 < x.abs) then .ok (.real y.abs)
    else .ok (.real 0)
  else if x.isInf then
    if 0 < y then .ok (.real (if isOdd y then x else x.abs))
    else .ok (.real (if isOdd y && x < 0 then -0.0 else 0))
  else if x == 0 then
    if y < 0 then .error .zeroToNegativePower
    else .ok (.real (if isOdd y then x else 0))
  else finitePower x y

/-- A power. An integer to a natural exponent is exact. -/
def power : Number → Number → Except ArithmeticError Number
  | .int a, .int b =>
      if 0 ≤ b then .ok (.int (Int.pow a b.toNat))
      else onFloats floatPower (.int a) (.int b)
  | a, b => onFloats floatPower a b

/-- The order of two doubles given exactly, without the numbers that have no place in it. -/
def compareExact (a b : Binary) : Option Ordering :=
  let signed (negative : Bool) (n : Nat) : Int := if negative then -Int.ofNat n else Int.ofNat n
  match a, b with
  | .nan, _ | _, .nan => none
  | .infinite s, .infinite t => some (compare (signed s 1) (signed t 1))
  | .infinite s, .finite .. => some (if s then .lt else .gt)
  | .finite .., .infinite t => some (if t then .gt else .lt)
  | .finite s m e, .finite t n f =>
      let (p, q) := fractionOf m e
      let (p', q') := fractionOf n f
      some (compare (signed s (p * q')) (signed t (p' * q)))

/-- The exact value of a number on the real line. -/
def binary? : Number → Option Binary
  | .int n => some (.finite (decide (n < 0)) n.natAbs 0)
  | .real x => some (Binary.ofFloat x)
  | .nonreal => none

/-- The order of two numbers by their exact values; none when one is not a number. -/
def compare? (a b : Number) : Option Ordering :=
  match a.binary?, b.binary? with
  | some x, some y => compareExact x y
  | _, _ => none

/-- Whether one number is less than another. -/
def less (a b : Number) : Bool :=
  compare? a b == some .lt

theorem compare?_int (a b : Int) : compare? (.int a) (.int b) = some (compare a b) := by
  have hsigned (n : Int) :
      (if decide (n < 0) = true then -Int.ofNat n.natAbs else Int.ofNat n.natAbs) = n := by
    simp only [decide_eq_true_eq]
    split <;> simp only [Int.ofNat_eq_natCast] <;> omega
  have hfraction (n : Nat) : fractionOf n 0 = (n, 1) := by
    simp [fractionOf, powerOfTwo]
  simp only [compare?, binary?, compareExact, hfraction, Nat.mul_one, hsigned]

theorem less_int (a b : Int) : less (.int a) (.int b) = decide (a < b) := by
  rw [less, compare?_int, Bool.eq_iff_iff]
  simp [Int.compare_eq_lt]

/-- Whether one number is at most another. -/
def atMost (a b : Number) : Bool :=
  match compare? a b with
  | some .lt | some .eq => true
  | _ => false

/-- Rounds to decimal places; an integer stays as it is. -/
def round (places : Nat) : Number → Except ArithmeticError Number
  | .int n => .ok (.int n)
  | .real x => .ok (.real (roundTo places x))
  | .nonreal => .error .nonreal

/-- The text of a number: digits of an integer, the shortest digits of a double. -/
def text : Number → String
  | .int n => integerText n
  | .real x => shortestText x
  | .nonreal => ""

/-- A number given as a double. -/
def toFloat (n : Number) : Float :=
  match n.toFloat? with
  | .ok (some x) => x
  | _ => notANumber

end Number

end SymbolSearch
