namespace SymbolSearch.Text

/-- The consonants that can begin a syllable, in order. -/
def leadingJamo : List String :=
  ["G", "GG", "N", "D", "DD", "R", "M", "B", "BB", "S", "SS", "", "J", "JJ", "C", "K", "T", "P",
    "H"]

/-- The vowels of a syllable, in order. -/
def vowelJamo : List String :=
  ["A", "AE", "YA", "YAE", "EO", "E", "YEO", "YE", "O", "WA", "WAE", "OE", "YO", "U", "WEO", "WE",
    "WI", "YU", "EU", "YI", "I"]

/-- The consonants that can end a syllable, in order; none is the first. -/
def trailingJamo : List String :=
  ["", "G", "GG", "GS", "N", "NJ", "NH", "D", "L", "LG", "LM", "LB", "LS", "LT", "LP", "LH", "M",
    "B", "BS", "S", "SS", "NG", "J", "C", "K", "T", "P", "H"]

/-- The longest part of a list that a text begins with: its place in the list and what follows. -/
def takeJamo? (parts : List String) (cs : List Char) : Option (Nat × List Char) :=
  let fitting := parts.zipIdx.filter fun (part, _) => part.toList.isPrefixOf cs
  let longest := fitting.foldl (fun best entry =>
    match best with
    | some (part, index) => if part.length < entry.1.length then some entry else some (part, index)
    | none => some entry) none
  longest.map fun (part, index) => (index, cs.drop part.length)

/-- The code point of the syllable that is spelt by a text. -/
def hangulPoint? (cs : List Char) : Option Nat := do
  let (leading, cs) ← takeJamo? leadingJamo cs
  let (vowel, cs) ← takeJamo? vowelJamo cs
  let (trailing, cs) ← takeJamo? trailingJamo cs
  if cs.isEmpty then
    some (0xac00 + (leading * vowelJamo.length + vowel) * trailingJamo.length + trailing)
  else none

end SymbolSearch.Text
