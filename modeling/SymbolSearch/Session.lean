import SymbolSearch.Desk

namespace SymbolSearch

/-- Where a session is in its life: not opened yet, waiting without a list, showing a list,
waiting with a stale list, or over. -/
inductive Phase
  | empty
  | loading
  | ready
  | revalidating
  | closed
deriving Repr, DecidableEq

/-- The name of a phase. -/
def Phase.name : Phase → String
  | .empty => "empty"
  | .loading => "loading"
  | .ready => "ready"
  | .revalidating => "revalidating"
  | .closed => "closed"

/-- The state of the rescan that opening a session starts. -/
inductive Rescan
  | notStarted
  | pending
  | finished
  | failed (reason : Failure)

/-- A search for symbols of a kind below a root. It serves the cached list at once, and swaps in a
fresh one when its rescan lands. -/
structure Session where
  kind : Json
  root : String
  phase : Phase
  base : List Item
  items : List Item
  filter : Json
  rescan : Rescan
  updates : Nat

namespace Session

/-- A session that has not been opened. -/
def new (kind : Json) (root : String) : Session :=
  ⟨kind, root, .empty, [], [], .string "", .notStarted, 0⟩

/-- The key of the list that the session works on. -/
def key (s : Session) : String :=
  Cache.key s.kind s.root

/-- Whether the rescan is awaited. -/
def isBusy (s : Session) : Bool :=
  s.phase == .loading || s.phase == .revalidating

/-- Whether the session is not over. -/
def isOpen (s : Session) : Bool :=
  s.phase != .closed

/-- The items that fit on the screen. -/
def visible (config : Config) (s : Session) : Except Failure (List Item) :=
  Argument.front config.maxVisible s.items

/-- The items of a list that the session's filter lets through. -/
def view (s : Session) (base : List Item) : Action (List Item) :=
  if s.filter.isGiven then Desk.rank base s.filter else pure base

/-- Opens the session: the cached list is served with fresh scores, and a rescan starts. -/
def start (s : Session) : Action Session := do
  if s.phase != .empty then throw (.session (.alreadyOpened s.key))
  match ← Desk.cached s.key with
  | some items =>
      let base ← Desk.rescore items
      return { s with phase := .revalidating, base := base, items := base, rescan := .pending }
  | none => return { s with phase := .loading, base := [], items := [], rescan := .pending }

/-- Sets the filter, without applying it yet. A value that does not count as given is no filter. -/
def setFilter (s : Session) (value : Json) : Except Failure Session :=
  if s.phase == .closed then .error (.session (.closed s.key))
  else .ok { s with filter := if value.isGiven then value else .string "" }

/-- Applies the filter; without one the whole list is shown again. -/
def applyFilter (s : Session) : Action Session := do
  return { s with items := ← s.view s.base }

/-- Filters the items. -/
def narrow (s : Session) (value : Json) : Action Session := do
  (← Desk.give (s.setFilter value)).applyFilter

/-- Records an access to an item. -/
def accept (item : Item) : Action Entry :=
  Desk.record item.path (some item.symbol)

/-- Ends the session. A pending rescan still refreshes the cache. -/
def close (s : Session) : Session :=
  { s with phase := .closed }

/-- The session after a rescan that found nothing out: an open one shows what it has. -/
def settled (s : Session) : Session :=
  { s with phase := if s.isOpen then .ready else s.phase, rescan := .finished }

/-- Takes over a fresh list, through the filter, and announces the update. A closed session stays as
it is. -/
def publish (s : Session) (fresh : List Item) : Action Session := do
  if s.phase == .closed then return { s with rescan := .finished }
  let items ← s.view fresh
  return { s with
    phase := .ready, base := fresh, items := items, rescan := .finished, updates := s.updates + 1 }

/-- Runs the rescan of a session, when one is pending. The given action stands for the extraction;
when it fails, an open session goes on with the list it has. Any later failure ends the rescan and
leaves the session waiting. -/
def landWith (s : Session) (extraction : Action (List Occurrence)) : StateM Desk Session := do
  match s.rescan with
  | .pending =>
      match ← extraction.run with
      | .error _ => return s.settled
      | .ok occurrences =>
          match ← (Desk.build s.root occurrences).run with
          | .error reason => return { s with rescan := .failed reason }
          | .ok fresh =>
              let _ ← (Desk.keep s.key fresh).run
              match ← (s.publish fresh).run with
              | .ok s => return s
              | .error reason => return { s with base := fresh, rescan := .failed reason }
  | _ => return s

/-- Runs the rescan of a session, when one is pending. -/
def land (s : Session) : StateM Desk Session :=
  s.landWith (Desk.extract s.kind s.root)

/-- Why the rescan of a session failed. -/
def failure? (s : Session) : Option Failure :=
  match s.rescan with
  | .failed reason => some reason
  | _ => none

end Session

end SymbolSearch
