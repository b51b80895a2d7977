import SymbolSearch.Text.Find

namespace SymbolSearch.Text

/-- Names of consecutive code points: the first of them, and lines with their names, divided by
semicolons. Each name begins with a digit, which says how many words it takes over from the name
before it; the words that differ follow. -/
abbrev NameRun := Nat × List String

/-- The words of a name, given those of the name before it. -/
def nameWords (previous : List (List Char)) : List Char → List (List Char)
  | [] => []
  | digit :: rest => previous.take (digit.toNat - 48) ++ splitAt ' ' rest

/-- The code point of a name among the entries of a run, where `point` belongs to the first entry
and `previous` are the words before it. -/
def entryPoint? (words : List (List Char)) (previous : List (List Char)) (point : Nat) :
    List (List Char) → Option Nat
  | [] => none
  | entry :: rest =>
      let found := nameWords previous entry
      if found = words then some point else entryPoint? words found (point + 1) rest

/-- The code point that a run gives to a name. -/
def NameRun.point? (words : List (List Char)) (run : NameRun) : Option Nat :=
  entryPoint? words [] run.1 (run.2.flatMap fun line => splitAt ';' line.toList)

end SymbolSearch.Text
