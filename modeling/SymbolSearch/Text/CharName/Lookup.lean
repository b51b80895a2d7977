import SymbolSearch.Text.CharName.Alias
import SymbolSearch.Text.CharName.Ancient
import SymbolSearch.Text.CharName.EastAsian
import SymbolSearch.Text.CharName.Hangul
import SymbolSearch.Text.CharName.Letters
import SymbolSearch.Text.CharName.Signs
import SymbolSearch.Text.CharName.Symbols
import SymbolSearch.Text.Hex

namespace SymbolSearch.Text

/-- Characters whose name ends in their code point: what comes before it, and the first and the last
of the code points. -/
def numberedNames : List (String × Nat × Nat) :=
  [("CJK COMPATIBILITY IDEOGRAPH-", 0xf900, 0xfa6d),
    ("CJK COMPATIBILITY IDEOGRAPH-", 0xfa70, 0xfad9),
    ("CJK COMPATIBILITY IDEOGRAPH-", 0x2f800, 0x2fa1d),
    ("KHITAN SMALL SCRIPT CHARACTER-", 0x18b00, 0x18cd5), ("NUSHU CHARACTER-", 0x1b170, 0x1b2fb)]

/-- Unified ideographs. -/
def ideographRanges : List (Nat × Nat) :=
  [(0x3400, 0x4dbf), (0x4e00, 0x9fff), (0x20000, 0x2a6df), (0x2a700, 0x2b738), (0x2b740, 0x2b81d),
    (0x2b820, 0x2cea1), (0x2ceb0, 0x2ebe0), (0x30000, 0x3134a)]

/-- What remains of a text after the given beginning. -/
def afterBeginning? (beginning : String) (cs : List Char) : Option (List Char) :=
  if beginning.toList.isPrefixOf cs then some (cs.drop beginning.length) else none

/-- The unified ideograph with the code point that four or five capital hexadecimal digits write. -/
def ideographPoint? (digits : List Char) : Option Nat := do
  if digits.any Char.isLower || !(digits.length == 4 || digits.length == 5) then none
  let n ← hexNumber? digits
  if ideographRanges.any fun (low, high) => decide (low ≤ n) && decide (n ≤ high) then some n
  else none

/-- The variation selector with the given number. -/
def selectorPoint? (digits : List Char) : Option Nat :=
  (List.range 256).findSome? fun k =>
    if (toString (k + 1)).toList = digits then some (if k < 16 then 0xfe00 + k else 0xe00f0 + k)
    else none

/-- The code point of a name in capitals whose ending is its code point. -/
def numberedPoint? (cs : List Char) : Option Nat :=
  numberedNames.findSome? fun (beginning, low, high) => do
    let digits ← afterBeginning? beginning cs
    let n ← hexNumber? digits
    if low ≤ n && n ≤ high && digits.head? != some '0' then some n else none

/-- The code point of a character with the given name. Ideographs and syllables are written in
capitals, the others in letters of any case. -/
def charNamed? (name : List Char) : Option Nat :=
  match afterBeginning? "HANGUL SYLLABLE " name, afterBeginning? "CJK UNIFIED IDEOGRAPH-" name with
  | some spelling, _ => hangulPoint? spelling
  | none, some digits => ideographPoint? digits
  | none, none =>
      let capitals := name.map Char.toUpper
      let words := splitAt ' ' capitals
      let runs := lettersNames ++ signsNames ++ eastAsianNames ++ ancientNames ++ symbolsNames
      ((aliasNames.find? fun entry => entry.2.toList = capitals).map Prod.fst).orElse fun _ =>
        ((afterBeginning? "VS" capitals).bind selectorPoint?).orElse fun _ =>
          (numberedPoint? capitals).orElse fun _ => runs.findSome? (NameRun.point? words)

end SymbolSearch.Text
