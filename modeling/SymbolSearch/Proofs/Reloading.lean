import SymbolSearch.Proofs.Persistence

namespace SymbolSearch.Proofs.Reloading

open Persistence
open StoredMap
open Tracker
open TrackerSteps
open WholeDoubles

/-- An access that one of several trackers is to record. -/
structure Access where
  tracker : Nat
  now : Int
  file : String
  symbol : Option String

/-- The same accesses, all recorded by the first tracker as it stands. -/
def alone (accesses : List Access) : List TrackerEvent :=
  accesses.map fun a => .record 0 a.now a.file a.symbol

variable {config : Config} {s : Shared} {store : Store} {t loaded : Tracker} {a : Access}
  {accesses : List Access} {notices : List Notice} {name : String} {cap : Int}

section Steps

/-- The map that is kept after one more access to a map. -/
def kept (cap : Int) (entries : OrderedMap String Entry) (a : Access) : Tracker :=
  let map := bumpedMap entries a.now a.file a.symbol
  ⟨evict ((map.length : Int) - cap).toNat map, true⟩

end Steps

section Sample

/-- One after the other, they record accesses to the same file. -/
def sampleAccesses : List Access :=
  [⟨0, 10, "a", none⟩, ⟨1, 11, "a", none⟩]

end Sample

end SymbolSearch.Proofs.Reloading
