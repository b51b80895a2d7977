import SymbolSearch.Text.Run

namespace SymbolSearch.Text

/-- Decimal digits of every script. Each run holds whole sets of ten, from zero to nine. -/
def decimalRuns : List Run :=
  [⟨1632, 1641, 1⟩, ⟨1776, 1785, 1⟩, ⟨1984, 1993, 1⟩, ⟨2406, 2415, 1⟩, ⟨2534, 2543, 1⟩,
    ⟨2662, 2671, 1⟩, ⟨2790, 2799, 1⟩, ⟨2918, 2927, 1⟩, ⟨3046, 3055, 1⟩, ⟨3174, 3183, 1⟩,
    ⟨3302, 3311, 1⟩, ⟨3430, 3439, 1⟩, ⟨3558, 3567, 1⟩, ⟨3664, 3673, 1⟩, ⟨3792, 3801, 1⟩,
    ⟨3872, 3881, 1⟩, ⟨4160, 4169, 1⟩, ⟨4240, 4249, 1⟩, ⟨6112, 6121, 1⟩, ⟨6160, 6169, 1⟩,
    ⟨6470, 6479, 1⟩, ⟨6608, 6617, 1⟩, ⟨6784, 6793, 1⟩, ⟨6800, 6809, 1⟩, ⟨6992, 7001, 1⟩,
    ⟨7088, 7097, 1⟩, ⟨7232, 7241, 1⟩, ⟨7248, 7257, 1⟩, ⟨42528, 42537, 1⟩, ⟨43216, 43225, 1⟩,
    ⟨43264, 43273, 1⟩, ⟨43472, 43481, 1⟩, ⟨43504, 43513, 1⟩, ⟨43600, 43609, 1⟩, ⟨44016, 44025, 1⟩,
    ⟨65296, 65305, 1⟩, ⟨66720, 66729, 1⟩, ⟨68912, 68921, 1⟩, ⟨69734, 69743, 1⟩, ⟨69872, 69881, 1⟩,
    ⟨69942, 69951, 1⟩, ⟨70096, 70105, 1⟩, ⟨70384, 70393, 1⟩, ⟨70736, 70745, 1⟩, ⟨70864, 70873, 1⟩,
    ⟨71248, 71257, 1⟩, ⟨71360, 71369, 1⟩, ⟨71472, 71481, 1⟩, ⟨71904, 71913, 1⟩, ⟨72016, 72025, 1⟩,
    ⟨72784, 72793, 1⟩, ⟨73040, 73049, 1⟩, ⟨73120, 73129, 1⟩, ⟨92768, 92777, 1⟩, ⟨92864, 92873, 1⟩,
    ⟨93008, 93017, 1⟩, ⟨120782, 120831, 1⟩, ⟨123200, 123209, 1⟩, ⟨123632, 123641, 1⟩,
    ⟨125264, 125273, 1⟩, ⟨130032, 130041, 1⟩]

/-- Digits that are not part of a decimal system, such as superscripts and circled numbers. -/
def otherDigitRuns : List Run :=
  [⟨178, 179, 1⟩, ⟨185, 185, 1⟩, ⟨4969, 4977, 1⟩, ⟨6618, 6618, 1⟩, ⟨8304, 8304, 1⟩,
    ⟨8308, 8313, 1⟩, ⟨8320, 8329, 1⟩, ⟨9312, 9320, 1⟩, ⟨9332, 9340, 1⟩, ⟨9352, 9360, 1⟩,
    ⟨9450, 9450, 1⟩, ⟨9461, 9469, 1⟩, ⟨9471, 9471, 1⟩, ⟨10102, 10110, 1⟩, ⟨10112, 10120, 1⟩,
    ⟨10122, 10130, 1⟩, ⟨68160, 68163, 1⟩, ⟨69216, 69224, 1⟩, ⟨69714, 69722, 1⟩,
    ⟨127232, 127242, 1⟩]

/-- The value of a decimal digit of any script. -/
def digitValue? (c : Char) : Option Nat :=
  if c.toNat < 128 then
    if c.isDigit then some (c.toNat - 48) else none
  else
    (decimalRuns.find? (·.contains c.toNat)).map fun run => (c.toNat - run.first) % 10

/-- A decimal digit of any script. -/
def isDecimal (c : Char) : Bool :=
  (digitValue? c).isSome

/-- A digit in the wide sense, including those that have no decimal value. -/
def isDigitLike (c : Char) : Bool :=
  isDecimal c || otherDigitRuns.any (·.contains c.toNat)

/-- The number written by a list of decimal digits of any script; `none` when the list is empty or
holds anything else. -/
def naturalOfDigits? : List Char → Option Nat
  | [] => none
  | cs => cs.foldl (fun acc c => do return (← acc) * 10 + (← digitValue? c)) (some 0)

end SymbolSearch.Text
