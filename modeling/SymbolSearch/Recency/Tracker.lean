import SymbolSearch.Argument
import SymbolSearch.Notice
import SymbolSearch.Recency.Entry
import SymbolSearch.Recency.Score
import SymbolSearch.Store

namespace SymbolSearch

/-- A score with the facts it was computed from. -/
structure Score where
  score : Float
  lastAccessed : Int
  accessCount : Int

/-- The score of what was never opened. -/
def Score.zero : Score := ⟨0, 0, 0⟩

/-- A score as a structured value. -/
def Score.fields (s : Score) : List (String × Json) :=
  [("score", .real s.score), ("last_accessed", .int s.lastAccessed),
    ("access_count", .int s.accessCount)]

/-- The map of remembered entries. Until it is loaded from the store it is empty. -/
structure Tracker where
  entries : OrderedMap String Entry
  loaded : Bool
deriving Repr

namespace Tracker

/-- A tracker that has not read the store yet. -/
def fresh : Tracker := ⟨[], false⟩

/-- The well-formed entries of a stored map, in order, and the number of the others. -/
def readEntries : List (String × Json) →
    Except ArithmeticError (OrderedMap String Entry × Nat)
  | [] => .ok ([], 0)
  | (key, value) :: rest => do
      let entry ← Entry.ofJson? value
      let (entries, dropped) ← readEntries rest
      match entry with
      | some e => return ((key, e) :: entries, dropped)
      | none => return (entries, dropped + 1)

/-- The entries of a stored value. Anything but a map, or nothing at all, is worth a warning. -/
def readMap : Json → Except ArithmeticError (OrderedMap String Entry × List Notice)
  | .object fields => do
      let (entries, dropped) ← readEntries fields
      return (entries, if dropped == 0 then [] else [.malformedEntries dropped])
  | .null => .ok ([], [])
  | other => .ok ([], [.unexpectedMap other.typeName])

/-- Reads the stored map, unless that has been done before. -/
def load (t : Tracker) (config : Config) (store : Store) :
    Except Failure (Tracker × List Notice) :=
  if t.loaded then .ok (t, [])
  else
    match store.get config.recencyKey (.object []) with
    | .error error => .error (.store error)
    | .ok value =>
        match readMap value with
        | .error error => .error (.arithmetic error)
        | .ok (entries, notices) => .ok (⟨entries, true⟩, notices)

/-- The map as a structured value. -/
def payload (t : Tracker) : Json :=
  .object (t.entries.map fun (key, e) => (key, e.toJson))

/-- Writes the map; when that fails the tracker goes on with what it has. -/
def save (t : Tracker) (config : Config) (store : Store) : Store × List Notice :=
  match store.set config.recencyKey t.payload with
  | .ok store => (store, [])
  | .error error =>
      (store.afterFailure config.recencyKey t.payload, [.mapNotPersisted error])

/-- The entry of a key after one more access. -/
def bumped (entries : OrderedMap String Entry) (key path : String) (now : Int) : Entry :=
  match OrderedMap.get? key entries with
  | some e => { e with lastAccessed := now, accessCount := e.accessCount + 1 }
  | none => ⟨path, now, 1⟩

/-- The keys in the order in which they are evicted: least recently opened first, and of two opened
at one time the one that comes first in the map. -/
def evictionOrder (entries : OrderedMap String Entry) : List String :=
  OrderedMap.keys (entries.mergeSort fun a b => decide (a.2.lastAccessed ≤ b.2.lastAccessed))

/-- Evicts a number of entries. -/
def evict (count : Nat) (entries : OrderedMap String Entry) : OrderedMap String Entry :=
  let evicted := (evictionOrder entries).take count
  if count == 0 then entries else entries.filter fun entry => !evicted.contains entry.1

/-- How many entries have to go when there are `size` and the settings allow for `cap`. A part of an
entry cannot go. -/
def overflow (cap : Json) (size : Nat) : Except Failure Nat :=
  match Operand.greater (.ofJson (.int size)) (.ofJson cap) with
  | .error error => .error (.arithmetic error)
  | .ok false => .ok 0
  | .ok true =>
      match Operand.ofJson cap with
      | .number _ (.int n) => .ok (Int.ofNat size - n).toNat
      | _ => .error Argument.noPosition

/-- A map after one more access to a key, before it is cut to size. -/
def bump (t : Tracker) (now : Int) (file : String) (symbol : Option String) : Tracker × Entry :=
  let key := recencyKey file symbol
  let entry := bumped t.entries key file now
  (⟨OrderedMap.insert key entry t.entries, true⟩, entry)

/-- A map cut to the size that the settings allow. -/
def prune (t : Tracker) (config : Config) : Except Failure Tracker := do
  let count ← overflow config.maxEntries t.entries.length
  return { t with entries := evict count t.entries }

/-- What recording an access leads to: the map and the store afterwards, what is worth a warning,
and the entry of the key. An access that cannot be completed may still have changed the map. -/
structure Recorded where
  tracker : Tracker
  store : Store
  notices : List Notice
  entry : Except Failure Entry

/-- Records an access and persists the map. -/
def record (t : Tracker) (config : Config) (store : Store) (now : Int) (file : String)
    (symbol : Option String) : Recorded :=
  match t.load config store with
  | .error error => ⟨t, store, [], .error error⟩
  | .ok (t, notices) =>
      let (t, entry) := t.bump now file symbol
      match t.prune config with
      | .error error => ⟨t, store, notices, .error error⟩
      | .ok t =>
          let (store, more) := t.save config store
          ⟨t, store, notices ++ more, .ok entry⟩

/-- The score of something last opened at a time and opened a number of times. -/
def scoreAt (config : Config) (last count now : Operand) : Except Failure Float :=
  match Scoring.score Arithmetic.operand config.scoring last count now with
  | .ok value => .ok value.toFloat
  | .error error => .error (.arithmetic error)

/-- The score of an entry at a time. -/
def scoreOf (config : Config) (now : Int) (e : Entry) : Except Failure Score := do
  let integer := Arithmetic.operand.integer
  let value ←
    scoreAt config (integer e.lastAccessed) (integer e.accessCount) (integer now)
  return ⟨value, e.lastAccessed, e.accessCount⟩

/-- The score of a key at a time. An unknown key scores zero. -/
def score (t : Tracker) (config : Config) (now : Int) (key : String) : Except Failure Score :=
  match OrderedMap.get? key t.entries with
  | some e => scoreOf config now e
  | none => .ok Score.zero

/-- The order of the most recent entries: latest first, and by key at one time. -/
def laterFirst (a b : String × Entry) : Bool :=
  if a.2.lastAccessed != b.2.lastAccessed then decide (b.2.lastAccessed ≤ a.2.lastAccessed)
  else decide (a.1 ≤ b.1)

/-- The most recent keys with their scores, up to a limit of any type. -/
def mostRecent (t : Tracker) (config : Config) (now : Int) (limit : Json) :
    Except Failure (List (String × Score)) := do
  let rows ← Argument.front limit (t.entries.mergeSort laterFirst)
  rows.mapM fun (key, e) => do return (key, ← scoreOf config now e)

/-- Forgets everything, also in the store. -/
def clear (config : Config) (store : Store) : Tracker × Store × List Notice :=
  match store.set config.recencyKey (.object []) with
  | .ok store => (⟨[], true⟩, store, [])
  | .error error =>
      (⟨[], true⟩, store.afterFailure config.recencyKey (.object []), [.mapNotCleared error])

end Tracker

end SymbolSearch
