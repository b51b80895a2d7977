import SymbolSearch.Cache
import SymbolSearch.Extraction
import SymbolSearch.FileTree
import SymbolSearch.Ranking

namespace SymbolSearch

/-- Everything that searches share: settings, rules, cached lists, remembered accesses, the store
behind them, and the world at the moment. The calls made so far are kept too. -/
structure Desk where
  config : Config
  catalog : Catalog
  cache : CacheSlot
  tracker : Tracker
  store : Store
  now : Int
  tool : SearchTool
  files : FileTree
  calls : List Invocation

/-- Something done at a desk. A failure keeps what was done before it. -/
abbrev Action := ExceptT Failure (StateM Desk)

namespace Desk

/-- An action that gives a result computed without the desk. -/
def give {α : Type} : Except Failure α → Action α
  | .ok a => pure a
  | .error e => throw e

/-- How the settings of a desk have symbols extracted. -/
def extractor (d : Desk) : Extractor :=
  ⟨Ripgrep.ofConfig d.config, d.catalog, d.config.workers⟩

/-- The tracker with its map loaded. -/
def loadTracker : Action Tracker := do
  let d ← get
  let (t, _) ← give (d.tracker.load d.config d.store)
  set { d with tracker := t }
  return t

/-- Gives items their scores of this moment. -/
def rescore (items : List Item) : Action (List Item) := do
  let t ← loadTracker
  let d ← get
  give (Ranking.rescore t d.config d.now items)

/-- Extracts the symbols of a kind below a root. -/
def extract (kind : Json) (root : String) : Action (List Occurrence) := do
  let d ← get
  let scan ← give (d.extractor.extract d.tool kind root)
  set { d with calls := d.calls ++ scan.invocations }
  return scan.occurrences

/-- Builds the whole list of a root from its occurrences. -/
def build (root : String) (occurrences : List Occurrence) : Action (List Item) := do
  let t ← loadTracker
  let d ← get
  give (Ranking.build t d.config d.now root occurrences)

/-- The cached list of a key. -/
def cached (key : String) : Action (Option (List Item)) := do
  return OrderedMap.get? key (← get).cache.current

/-- Caches a list. -/
def keep (key : String) (items : List Item) : Action Unit :=
  modify fun d => { d with cache := d.cache.modify (OrderedMap.insert key items) }

/-- Drops cached lists. -/
def invalidate (which : Option String) : Action Unit :=
  modify fun d => { d with cache := d.cache.modify (Cache.invalidate which) }

/-- Records an access to a file or symbol. -/
def record (file : String) (symbol : Option String) : Action Entry := do
  let d ← get
  let recorded := d.tracker.record d.config d.store d.now file symbol
  set { d with tracker := recorded.tracker, store := recorded.store }
  give recorded.entry

/-- The score of a file or symbol. -/
def score (file : String) (symbol : Option String) : Action Score := do
  let t ← loadTracker
  let d ← get
  give (t.score d.config d.now (recencyKey file symbol))

/-- The most recently opened keys with their scores, up to a limit of any type. -/
def mostRecent (limit : Json) : Action (List (String × Score)) := do
  let t ← loadTracker
  let d ← get
  give (t.mostRecent d.config d.now limit)

/-- Forgets all accesses. -/
def clearRecency : Action Unit :=
  modify fun d =>
    let (tracker, store, _) := Tracker.clear d.config d.store
    { d with tracker := tracker, store := store }

/-- Ranks items against a query. -/
def rank (items : List Item) (query : Json) : Action (List Item) := do
  give (Ranking.rank (← get).config items query)

end Desk

end SymbolSearch
