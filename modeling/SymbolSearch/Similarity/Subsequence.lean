import SymbolSearch.OrderedMap

namespace SymbolSearch.Similarity

/-- Whether all characters of the first text appear in the second one in order. -/
def isSubsequence : List Char → List Char → Bool
  | [], _ => true
  | _ :: _, [] => false
  | a :: needle, b :: haystack =>
      if a == b then isSubsequence needle haystack else isSubsequence (a :: needle) haystack

/-- The positions of each character of a text, as a set of bits. -/
def positions (a : List Char) : OrderedMap Char Nat :=
  a.zipIdx.foldl
    (fun found (c, i) => OrderedMap.insert c ((OrderedMap.get? c found).getD 0 ||| (1 <<< i)) found)
    []

/-- The next row of the table of longest common subsequences, for one more character of the second
text. From entry to entry a row grows by one or not at all; what is kept of a row is the set of
places, among the lowest `size` bits, where it does not grow. `here` is the set of places of the
character in the first text. -/
def nextRow (size : Nat) (row here : Nat) : Nat :=
  let met := row &&& here
  ((row + met) ||| (row - met)) % (1 <<< size)

/-- The length of the longest common subsequence of a text of a length, given by the positions of
its characters, and another text: the number of places where the last row of the table grows. -/
def commonLengthOf (size : Nat) (found : OrderedMap Char Nat) (b : List Char) : Nat :=
  let step (row : Nat) (c : Char) : Nat := nextRow size row ((OrderedMap.get? c found).getD 0)
  let last := b.foldl step ((1 <<< size) - 1)
  (List.range size).countP fun i => !last.testBit i

/-- The length of the longest common subsequence of two texts. -/
def commonLength (a b : List Char) : Nat :=
  commonLengthOf a.length (positions a) b

end SymbolSearch.Similarity
