import SymbolSearch.Text.CaseTable

namespace SymbolSearch.Text

/-- An upper-case character of any script. Title-case letters do not count. -/
def isUpper (c : Char) : Bool :=
  if c.toNat < 128 then c.isUpper else uppercaseRuns.any (·.contains c.toNat)

/-- The one-to-one lower-case form of a code point. -/
def lowerPoint (n : Nat) : Nat :=
  if n < 128 then
    if 65 ≤ n && n ≤ 90 then n + 32 else n
  else Shift.apply lowerShifts n

/-- The one-to-one lower-case form of a character. -/
def lowerChar (c : Char) : Char :=
  Char.ofNat (lowerPoint c.toNat)

/-- Every code point whose lower-case form is `n`. -/
def lowerSources (n : Nat) : List Nat :=
  (if lowerPoint n == n then [n] else []) ++ Shift.sources lowerShifts n

/-- The lower-case code points that a match without regard to case identifies with `n`. -/
def caseClass (n : Nat) : List Nat :=
  (caseSiblings.find? (·.contains n)).getD [n]

/-- Whether a final sigma stands between the characters read so far, nearest first, and those that
follow: a cased letter before it, none after it, with ignorable characters skipped. -/
def isFinalSigma (before after : List Char) : Bool :=
  let ignorable (c : Char) := caseIgnorableRuns.any (·.contains c.toNat)
  let cased (c : Char) := casedRuns.any (·.contains c.toNat)
  ((before.dropWhile ignorable).head?.any cased) && !((after.dropWhile ignorable).head?.any cased)

/-- The lower-case form of one character in its context. -/
def lowerInContext (before : List Char) (c : Char) (after : List Char) : List Char :=
  if c.toNat < 128 then [lowerChar c]
  else if c.toNat == 0x3a3 then
    [Char.ofNat (if isFinalSigma before after then 0x3c2 else 0x3c3)]
  else if c.toNat == 0x130 then ['i', Char.ofNat 0x307]
  else [lowerChar c]

/-- The lower-case form of a text, given the characters before it, nearest first. -/
def lowerFrom (before : List Char) : List Char → List Char
  | [] => []
  | c :: rest => lowerInContext before c rest ++ lowerFrom (c :: before) rest

/-- The lower-case form of a text. A sigma at the end of a word takes its final form, and a dotted
capital I becomes an i followed by a combining dot. -/
def lowered (cs : List Char) : List Char :=
  lowerFrom [] cs

/-- The lower-case form of a string. -/
def lower (s : String) : String :=
  String.ofList (lowered s.toList)

/-- The upper-case form of one character, which may be several characters long. -/
def upperChar (c : Char) : List Char :=
  if c.toNat < 128 then [c.toUpper]
  else
    match upperExpansions.lookup c.toNat with
    | some points => points.map Char.ofNat
    | none => [Char.ofNat (Shift.apply upperShifts c.toNat)]

/-- The upper-case form of a string. -/
def upper (s : String) : String :=
  String.ofList (s.toList.flatMap upperChar)

/-- The first code point of the upper-case form of a code point. -/
def upperPoint (n : Nat) : Nat :=
  if n < 128 then
    if 97 ≤ n && n ≤ 122 then n - 32 else n
  else
    match upperExpansions.lookup n with
    | some (first :: _) => first
    | _ => Shift.apply upperShifts n

/-- Whether a code point differs from its lower-case or from its upper-case form. -/
def isCased (n : Nat) : Bool :=
  lowerPoint n != n || upperPoint n != n

/-- Whether some code point between two bounds differs from its lower-case or from its upper-case
form. -/
def hasCased (low high : Nat) : Bool :=
  (lowerShifts ++ upperShifts).any (·.run.meets low high) ||
    upperExpansions.any fun entry => decide (low ≤ entry.1) && decide (entry.1 ≤ high)

/-- Whether a text holds an upper-case character. -/
def hasUpper (cs : List Char) : Bool :=
  cs.any isUpper

end SymbolSearch.Text
