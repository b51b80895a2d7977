import SymbolSearch.Item
import SymbolSearch.Query
import SymbolSearch.Recency.Tracker
import SymbolSearch.TextMatch

namespace SymbolSearch.Ranking

/-- Gives every item its recency score at a time, and sorts. The tracker is loaded. -/
def rescore (t : Tracker) (config : Config) (now : Int) (items : List Item) :
    Except Failure (List Item) := do
  let scored ← items.mapM fun item => do
    return item.withScore (.real (← t.score config now item.recencyKey).score)
  return Item.sort scored

/-- The whole list of a root: occurrences with their recency scores, sorted. -/
def build (t : Tracker) (config : Config) (now : Int) (root : String)
    (occurrences : List Occurrence) : Except Failure (List Item) :=
  rescore t config now (occurrences.map fun o => Item.ofOccurrence o root)

/-- The constants of a combined score: the score of the best match, the share of the match and that
of recency. -/
structure Blend (α : Type) where
  maxScore : α
  matchWeight : α
  recencyWeight : α

/-- The quality of a match, measured by the best one, blended with a recency score and rounded to
two decimal places. -/
def Blend.combine {α : Type} (ar : Arithmetic α) (b : Blend α) (quality best recency : α) :
    Except ArithmeticError α := do
  let normalized ←
    if ← ar.less (ar.integer 0) best then do ar.mul (← ar.div quality best) b.maxScore
    else pure ar.zero
  let first ← ar.mul b.matchWeight normalized
  let second ← ar.mul b.recencyWeight recency
  ar.round 2 (← ar.add first second)

/-- The constants that the settings ask for. -/
def blend (config : Config) : Blend Operand :=
  ⟨.ofJson config.maxScore, .ofJson config.fuzzyWeight, .ofJson config.recencyRankWeight⟩

/-- The combined score of a match. -/
def combined (config : Config) (quality best recency : Operand) : Except Failure Float :=
  match (blend config).combine Arithmetic.operand quality best recency with
  | .ok value => .ok value.toFloat
  | .error error => .error (.arithmetic error)

/-- The best quality among some hits. -/
def bestQuality {α : Type} : List (Similarity.Hit α) → Float
  | [] => 0
  | hit :: rest => rest.foldl (fun best h => Similarity.larger best h.quality) hit.quality

/-- A hit's item with its combined score. -/
def scored (config : Config) (best : Float) (hit : Similarity.Hit Item) : Except Failure Item := do
  let score ←
    combined config (.ofNumber (.real hit.quality)) (.ofNumber (.real best))
      (.ofNumber hit.item.score)
  return hit.item.withScore (.real score)

/-- The items whose symbols match a query, by combined score. A query that does not count as given
keeps all items with their scores. -/
def rank (config : Config) (items : List Item) (query : Json) : Except Failure (List Item) :=
  if !query.isGiven then .ok (Item.sort items)
  else do
    let hits ← Query.findAll (fun item : Item => item.symbol) items query
    let ranked ← hits.mapM (scored config (bestQuality hits))
    return Item.sort ranked

/-- What of a text match a query is compared with: the file's name, the line and the path. -/
def matchText (m : TextMatch) : String :=
  baseName m.path ++ " " ++ Text.strip m.text ++ " " ++ m.path

/-- The text matches that match a query, best first and up to a limit. A query that does not count
as given keeps all. -/
def filterMatches (matches' : List TextMatch) (query limit : Json) :
    Except Failure (List TextMatch) :=
  if !query.isGiven then .ok matches'
  else do
    let hits ← Query.findAll matchText matches' query
    Argument.limited limit (hits.map (·.item))

/-- How many text matches a query keeps when nothing else is asked for. -/
def matchLimit : Json := .int 50

end SymbolSearch.Ranking
