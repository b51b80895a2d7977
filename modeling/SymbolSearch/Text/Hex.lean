namespace SymbolSearch.Text

/-- The value of a hexadecimal digit. -/
def hexDigit? (c : Char) : Option Nat :=
  if '0' ≤ c && c ≤ '9' then some (c.toNat - 48)
  else if 'a' ≤ c && c ≤ 'f' then some (c.toNat - 87)
  else if 'A' ≤ c && c ≤ 'F' then some (c.toNat - 55)
  else none

/-- The number written by a list of hexadecimal digits; `none` when the list is empty or holds
anything else. -/
def hexNumber? : List Char → Option Nat
  | [] => none
  | cs => cs.foldl (fun acc c => do return (← acc) * 16 + (← hexDigit? c)) (some 0)

end SymbolSearch.Text
