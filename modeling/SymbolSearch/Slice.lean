namespace SymbolSearch

/-- The front part of a list up to a signed position; a negative position counts from the end. -/
def takeTo {α : Type} (position : Int) (xs : List α) : List α :=
  if 0 ≤ position then xs.take position.toNat else xs.take (xs.length - position.natAbs)

/-- The element at a signed position; a negative one counts from the end. -/
def atSigned? {α : Type} (position : Int) (xs : List α) : Option α :=
  if 0 ≤ position then xs[position.toNat]?
  else if position.natAbs ≤ xs.length then xs[xs.length - position.natAbs]?
  else none

end SymbolSearch
