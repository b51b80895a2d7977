import SymbolSearch.Decimal.Binary

namespace SymbolSearch.Decimal

/-- The nearest multiple of `10 ^ -places` to `mantissa * 2 ^ exponent`, counted in units of
`10 ^ -places`. A half goes to the even neighbour. -/
def scaled (places mantissa : Nat) (exponent : Int) : Nat :=
  let (num, den) := fractionOf mantissa exponent
  roundDiv (num * powerOfTen places) den

/-- A double rounded to a number of decimal places. What is not finite stays as it is. -/
def roundTo (places : Nat) (x : Float) : Float :=
  match Binary.ofFloat x with
  | .finite negative mantissa exponent =>
      (floatOfFraction? negative (scaled places mantissa exponent) (powerOfTen places)).getD x
  | _ => x

/-- The decimal digits of a natural number. -/
def digits (n : Nat) : String :=
  String.ofList (Nat.toDigits 10 n)

/-- The decimal digits of an integer, with a sign when it is negative. -/
def integerText : Int → String
  | .ofNat n => digits n
  | .negSucc n => "-" ++ digits (n + 1)

/-- `n / 10 ^ places` written with exactly that many places. -/
def placesText (places n : Nat) : String :=
  let ds := Nat.toDigits 10 n
  let ds := List.replicate (places + 1 - ds.length) '0' ++ ds
  let whole := ds.take (ds.length - places)
  if places == 0 then String.ofList whole
  else String.ofList (whole ++ '.' :: ds.drop (ds.length - places))

/-- A double written with a fixed number of decimal places. -/
def fixedText (places : Nat) (x : Float) : String :=
  match Binary.ofFloat x with
  | .nan => "nan"
  | .infinite negative => if negative then "-inf" else "inf"
  | .finite negative mantissa exponent =>
      (if negative then "-" else "") ++ placesText places (scaled places mantissa exponent)

end SymbolSearch.Decimal
