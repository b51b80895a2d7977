import SymbolSearch.Decimal.Fixed

namespace SymbolSearch.Decimal

/-- Digits of a decimal number and the power of ten they are counted in. -/
structure Scientific where
  digits : Nat
  power : Int
deriving Repr, DecidableEq

/-- How many decimal digits a natural number has; zero has none. -/
def length (n : Nat) : Nat :=
  if n == 0 then 0 else (Nat.toDigits 10 n).length

/-- The power of ten of the leading digit of a positive fraction. -/
def leadingPower (num den : Nat) : Int :=
  if den ≤ num then Int.ofNat (length (num / den)) - 1
  else -Int.ofNat (length ((den + num - 1) / num - 1))

/-- Trailing zeros moved from the digits to the power. At most `fuel` of them are moved. -/
def Scientific.trim : Nat → Scientific → Scientific
  | 0, s => s
  | fuel + 1, s =>
      if s.digits != 0 && s.digits % 10 == 0 then trim fuel ⟨s.digits / 10, s.power + 1⟩ else s

/-- The real numbers that round to a double, as fractions over one denominator. The ends belong to
the interval when `closed` holds. -/
structure Interval where
  low : Nat
  value : Nat
  high : Nat
  den : Nat
  closed : Bool

/-- The interval of numbers that round to `mantissa * 2 ^ exponent`. It is narrower below a power of
two, where the spacing of the doubles halves. -/
def Interval.around (mantissa : Nat) (exponent : Int) : Interval :=
  let (num, den) := fractionOf mantissa exponent
  let unit := num / mantissa
  let lowGap := if mantissa == powerOfTwo 52 && -1074 < exponent then unit else 2 * unit
  { low := 4 * num - lowGap
    value := 4 * num
    high := 4 * num + 2 * unit
    den := 4 * den
    closed := mantissa % 2 == 0 }

/-- Whether the interval holds `n * 10 ^ power`. -/
def Interval.contains (i : Interval) (n : Nat) (power : Int) : Bool :=
  let (n, scale) :=
    if 0 ≤ power then (n * powerOfTen power.toNat * i.den, 1)
    else (n * i.den, powerOfTen (-power).toNat)
  if i.closed then i.low * scale ≤ n && n ≤ i.high * scale
  else i.low * scale < n && n < i.high * scale

/-- The point of the grid of multiples of `10 ^ power` that lies in the interval and is nearest to
its value. Of the neighbours above and below the value, an even one wins a tie. -/
def Interval.onGrid? (i : Interval) (power : Int) : Option Nat :=
  let (num, den) :=
    if 0 ≤ power then (i.value, i.den * powerOfTen power.toNat)
    else (i.value * powerOfTen (-power).toNat, i.den)
  let nearest := roundDiv num den
  let below := num / den
  let other := if nearest == below then below + 1 else below
  if i.contains nearest power then some nearest
  else if i.contains other power then some other
  else none

/-- The coarsest grid, counted from `power` downwards, that has a point in the interval. -/
def Interval.coarsest (i : Interval) : Nat → Int → Scientific
  | 0, power => ⟨(i.onGrid? power).getD 0, power⟩
  | fuel + 1, power =>
      match i.onGrid? power with
      | some n => ⟨n, power⟩
      | none => coarsest i fuel (power - 1)

/-- The shortest decimal that reads back as the positive number `mantissa * 2 ^ exponent`. Seventeen
digits always suffice. -/
def shortest (mantissa : Nat) (exponent : Int) : Scientific :=
  let (num, den) := fractionOf mantissa exponent
  let found := (Interval.around mantissa exponent).coarsest 18 (leadingPower num den + 1)
  found.trim (length found.digits)

/-- An exponent mark with a sign and at least two digits. -/
def exponentText (e : Int) : String :=
  let ds := digits e.natAbs
  "e" ++ (if e < 0 then "-" else "+") ++ (if ds.length < 2 then "0" ++ ds else ds)

/-- A decimal in positional form while its leading digit lies between the fourth place after the
point and the sixteenth before it, with an exponent otherwise. -/
def Scientific.text (s : Scientific) : String :=
  let ds := Nat.toDigits 10 s.digits
  let point := Int.ofNat ds.length + s.power
  if -4 < point && point ≤ 16 then
    if point ≤ 0 then
      "0." ++ String.ofList (List.replicate (-point).toNat '0' ++ ds)
    else if Int.ofNat ds.length ≤ point then
      String.ofList (ds ++ List.replicate (point - Int.ofNat ds.length).toNat '0') ++ ".0"
    else
      String.ofList (ds.take point.toNat ++ '.' :: ds.drop point.toNat)
  else
    let mantissa :=
      match ds with
      | [] => ""
      | [d] => String.ofList [d]
      | d :: rest => String.ofList (d :: '.' :: rest)
    mantissa ++ exponentText (point - 1)

/-- A double written with the fewest digits that read back as the same number. -/
def shortestText (x : Float) : String :=
  match Binary.ofFloat x with
  | .nan => "nan"
  | .infinite negative => if negative then "-inf" else "inf"
  | .finite negative mantissa exponent =>
      (if negative then "-" else "") ++
        (if mantissa == 0 then "0.0" else (shortest mantissa exponent).text)

end SymbolSearch.Decimal
