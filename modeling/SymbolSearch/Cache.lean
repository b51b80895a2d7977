import SymbolSearch.Item
import SymbolSearch.Json.Display

namespace SymbolSearch

/-- The last whole list of each kind and root. -/
abbrev Cache := OrderedMap String (List Item)

namespace Cache

/-- The key of a kind, which may be a value of any type, and a root. -/
def key (kind : Json) (root : String) : String :=
  kind.display ++ "::" ++ root

/-- Drops the list of a key, or every list. -/
def invalidate (which : Option String) (c : Cache) : Cache :=
  match which with
  | none => []
  | some key => OrderedMap.erase key c

end Cache

/-- The cache that a client works with: the one it was given, or one of its own. -/
structure CacheSlot where
  given : Cache
  own : Option Cache

namespace CacheSlot

/-- A client uses the cache it is given unless that is empty; then it starts one of its own. -/
def adopt (given : Cache) : CacheSlot :=
  ⟨given, if given.isEmpty then some [] else none⟩

/-- The cache in use. -/
def current (s : CacheSlot) : Cache :=
  s.own.getD s.given

/-- Changes the cache in use. -/
def modify (s : CacheSlot) (f : Cache → Cache) : CacheSlot :=
  match s.own with
  | some c => { s with own := some (f c) }
  | none => { s with given := f s.given }

end CacheSlot

end SymbolSearch
