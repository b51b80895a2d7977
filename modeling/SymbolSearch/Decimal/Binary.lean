namespace SymbolSearch.Decimal

/-- A power of two. -/
def powerOfTwo (n : Nat) : Nat :=
  Nat.pow 2 n

/-- A power of ten. -/
def powerOfTen (n : Nat) : Nat :=
  Nat.pow 10 n

/-- The quotient of two natural numbers rounded to the nearest, a half to the even neighbour. -/
def roundDiv (num den : Nat) : Nat :=
  let quotient := num / den
  let remainder := num % den
  if 2 * remainder < den then quotient
  else if den < 2 * remainder then quotient + 1
  else quotient + quotient % 2

/-- What a double-precision number stands for: a finite one is `mantissa * 2 ^ exponent` with a
sign. -/
inductive Binary
  | nan
  | infinite (negative : Bool)
  | finite (negative : Bool) (mantissa : Nat) (exponent : Int)
deriving Repr, DecidableEq

/-- The exact value of a double-precision number. -/
def Binary.ofFloat (x : Float) : Binary :=
  let bits := x.toBits.toNat
  let negative := bits / powerOfTwo 63 == 1
  let exponent := bits / powerOfTwo 52 % powerOfTwo 11
  let fraction := bits % powerOfTwo 52
  if exponent == 2047 then
    if fraction == 0 then .infinite negative else .nan
  else if exponent == 0 then .finite negative fraction (-1074)
  else .finite negative (fraction + powerOfTwo 52) (Int.ofNat exponent - 1075)

/-- The fraction `mantissa * 2 ^ exponent` as a numerator and a denominator. -/
def fractionOf (mantissa : Nat) (exponent : Int) : Nat × Nat :=
  if 0 ≤ exponent then (mantissa * powerOfTwo exponent.toNat, 1)
  else (mantissa, powerOfTwo (-exponent).toNat)

/-- The pattern of the double nearest to `num / den`, a half to the even neighbour, without its
sign; `none` when it lies beyond the largest finite one. The denominator is positive. -/
def nearestBits? (num den : Nat) : Option Nat :=
  if num == 0 then some 0
  else
    let scale := Int.ofNat num.log2 - Int.ofNat den.log2 - 52
    let divide (e : Int) : Nat × Nat :=
      if 0 ≤ e then (num, den * powerOfTwo e.toNat) else (num * powerOfTwo (-e).toNat, den)
    let (n, d) := divide scale
    let exponent := max (-1074) (if n / d < powerOfTwo 52 then scale - 1 else scale)
    let (n, d) := divide exponent
    let rounded := roundDiv n d
    let (mantissa, exponent) :=
      if rounded == powerOfTwo 53 then (powerOfTwo 52, exponent + 1) else (rounded, exponent)
    if 971 < exponent then none
    else if mantissa < powerOfTwo 52 then some mantissa
    else some ((exponent + 1075).toNat * powerOfTwo 52 + (mantissa - powerOfTwo 52))

/-- A double from its sign and the pattern of its magnitude. -/
def floatOfBits (negative : Bool) (bits : Nat) : Float :=
  Float.ofBits (UInt64.ofNat (bits + if negative then powerOfTwo 63 else 0))

/-- The double nearest to a signed fraction, or `none` when that is not finite. -/
def floatOfFraction? (negative : Bool) (num den : Nat) : Option Float :=
  (nearestBits? num den).map (floatOfBits negative)

/-- The infinite doubles. -/
def infinity (negative : Bool) : Float :=
  floatOfBits negative (2047 * powerOfTwo 52)

/-- The double that is not a number. -/
def notANumber : Float :=
  floatOfBits false (2047 * powerOfTwo 52 + powerOfTwo 51)

/-- Whether a double stands for a number of finite size. -/
def isFinite (x : Float) : Bool :=
  match Binary.ofFloat x with
  | .finite .. => true
  | _ => false

/-- The whole part of a finite double, towards zero; zero for the others. -/
def truncate (x : Float) : Int :=
  match Binary.ofFloat x with
  | .finite negative mantissa exponent =>
      let (num, den) := fractionOf mantissa exponent
      if negative then -Int.ofNat (num / den) else Int.ofNat (num / den)
  | _ => 0

end SymbolSearch.Decimal
