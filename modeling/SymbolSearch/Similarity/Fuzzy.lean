import SymbolSearch.Similarity.Ratio
import SymbolSearch.Text.Case

namespace SymbolSearch.Similarity

/-- Something that matches a query: its place among the candidates and the quality of the match. -/
structure Hit (α : Type) where
  index : Nat
  item : α
  quality : Float

/-- What candidates are compared with: the characters looked for, whether case matters, and whether
typographic blanks divide words whatever the characters are. -/
structure Needle where
  characters : List Char
  exact : Bool
  wide : Bool
deriving Repr, DecidableEq

namespace Needle

/-- What to look for when a text is asked for: the text in lower case, unless it holds an upper-case
letter. -/
def ofText (cs : List Char) : Needle :=
  if Text.hasUpper cs then ⟨cs, true, false⟩ else ⟨Text.lowered cs, false, false⟩

/-- A candidate as it is compared. -/
def normalize (n : Needle) (text : List Char) : List Char :=
  if n.exact then text else Text.lowered text

/-- Whether a candidate contains the needle as a subsequence. -/
def isIn (n : Needle) (text : List Char) : Bool :=
  isSubsequence n.characters (n.normalize text)

/-- The quality of a candidate. -/
def quality (n : Needle) (text : List Char) : Float :=
  let sample := Sample.ofText n.characters
  weightedRatio { sample with wide := n.wide || sample.wide } (.ofText (n.normalize text))

/-- The candidates that contain a needle, best first; of two equally good ones the earlier comes
first. -/
def findAll {α : Type} (n : Needle) (text : α → String) (candidates : List α) : List (Hit α) :=
  let hits := candidates.zipIdx.filterMap fun (item, index) =>
    let cs := (text item).toList
    if n.isIn cs then some ⟨index, item, n.quality cs⟩ else none
  hits.mergeSort fun a b => !(a.quality < b.quality)

end Needle

end SymbolSearch.Similarity
