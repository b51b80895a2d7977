import SymbolSearch.Similarity.Subsequence
import SymbolSearch.Text.Blank

namespace SymbolSearch.Similarity

/-- The larger of two doubles. -/
def larger (x y : Float) : Float :=
  if x < y then y else x

/-- How much two texts agree, from zero to one: twice the length of their longest common subsequence
over the sum of their lengths. -/
def agreement (total common : Nat) : Float :=
  if total == 0 then 1 else 1 - Float.ofNat (total - 2 * common) / Float.ofNat total

/-- The agreement of two texts in percent. -/
def ratio (a b : List Char) : Float :=
  agreement (a.length + b.length) (commonLength a b) * 100

/-- The parts of the longer text that a shorter one of length `n` is compared with: its beginnings
and its ends, and all parts of length `n`. A part counts only when its outermost character occurs in
the shorter text. -/
def windows (short long : List Char) : List (List Char) :=
  let n := short.length
  let total := long.length
  let occurs (index : Nat) : Bool := (long[index]?).any short.contains
  let beginnings := (List.range n).filter fun i => 1 ≤ i && occurs (i - 1)
  let middles := (List.range (total - n)).filter fun i => occurs (i + n - 1)
  let ends := (List.range n).filter fun i => occurs (total - n + i)
  beginnings.map long.take ++ middles.map (fun i => (long.drop i).take n) ++
    ends.map (fun i => long.drop (total - n + i))

/-- The best agreement, in percent, of a text with a part of a text that is not shorter. -/
def bestPart (short long : List Char) : Float :=
  let size := short.length
  let found := positions short
  let measure (part : List Char) : Float :=
    agreement (size + part.length) (commonLengthOf size found part)
  100 * (windows short long).foldl (fun best part => larger best (measure part)) 0

/-- The best agreement of the shorter text with a part of the longer one. Of two texts of one length
each is tried as the shorter one. -/
def partialRatio (a b : List Char) : Float :=
  if a.isEmpty && b.isEmpty then 100
  else
    let (short, long) := if a.length ≤ b.length then (a, b) else (b, a)
    let found := bestPart short long
    if found != 100 && a.length == b.length then larger found (bestPart long short) else found

/-- A text to be compared, and whether typographic blanks divide its words as plain ones do. -/
structure Sample where
  characters : List Char
  wide : Bool
deriving Repr, DecidableEq

namespace Sample

/-- A text as a sample. Typographic blanks count in a text that goes beyond the first 256 code
points. -/
def ofText (cs : List Char) : Sample :=
  ⟨cs, cs.any fun c => decide (256 ≤ c.toNat)⟩

/-- The words of a sample in ascending order. -/
def sortedWords (s : Sample) : List String :=
  let blank := if s.wide then Text.isBlank else Text.isPlainBlank
  ((Text.words blank s.characters).map String.ofList).mergeSort fun a b => decide (a ≤ b)

/-- The different words of a sample in ascending order. -/
def wordSet (s : Sample) : List String :=
  s.sortedWords.eraseDups

end Sample

/-- Words with a space between each two. -/
def joined (ws : List String) : List Char :=
  (String.intercalate " " ws).toList

/-- One hundred less the percentage that a distance is of a total. -/
def closeness (distance total : Nat) : Float :=
  if total == 0 then 100 else 100 - 100 * Float.ofNat distance / Float.ofNat total

/-- Compares two samples as sets of words: what they share with what they do not. -/
def wordSetRatio (a b : Sample) : Float :=
  let x := a.wordSet
  let y := b.wordSet
  if x.isEmpty || y.isEmpty then 0
  else
    let shared := x.filter y.contains
    let onlyFirst := x.filter fun w => !y.contains w
    let onlySecond := y.filter fun w => !x.contains w
    if !shared.isEmpty && (onlyFirst.isEmpty || onlySecond.isEmpty) then 100
    else
      let d := joined onlyFirst
      let e := joined onlySecond
      let common := (joined shared).length
      let gap := if common == 0 then 0 else 1
      let first := common + gap + d.length
      let second := common + gap + e.length
      let direct := closeness (d.length + e.length - 2 * commonLength d e) (first + second)
      if common == 0 then direct
      else
        larger (larger direct (closeness (gap + d.length) (common + first)))
          (closeness (gap + e.length) (common + second))

/-- Compares two samples by their words, without regard to order. -/
def wordRatio (a b : Sample) : Float :=
  larger (wordSetRatio a b) (ratio (joined a.sortedWords) (joined b.sortedWords))

/-- Compares parts of two samples by their words. Texts that share a word agree fully. -/
def partialWordRatio (a b : Sample) : Float :=
  if a.wordSet.any b.wordSet.contains then 100
  else
    larger (partialRatio (joined a.sortedWords) (joined b.sortedWords))
      (partialRatio (joined a.wordSet) (joined b.wordSet))

/-- The quality of a match in percent. Texts of similar length are compared as a whole; for others,
parts of the longer one count too, at a discount that grows with the difference. -/
def weightedRatio (first second : Sample) : Float :=
  let a := first.characters
  let b := second.characters
  if a.isEmpty || b.isEmpty then 0
  else
    let whole := ratio a b
    let longest := max a.length b.length
    let shortest := min a.length b.length
    let stretch := Float.ofNat longest / Float.ofNat shortest
    if stretch < 1.5 then larger whole (wordRatio first second * 0.95)
    else
      let discount : Float := if stretch ≤ 8 then 0.9 else 0.6
      let part := larger whole (partialRatio a b * discount)
      larger part (partialWordRatio first second * 0.95 * discount)

end SymbolSearch.Similarity
