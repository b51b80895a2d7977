import SymbolSearch.History
import SymbolSearch.Session
import SymbolSearch.Sibling

namespace SymbolSearch

/-- The version that status reports give. -/
def version : String := "1.0.0"

/-- A client: a desk, and the sessions whose rescans run on in the background. -/
structure Client where
  desk : Desk
  background : List Session

/-- Something done with a client. A failure keeps what was done before it. -/
abbrev ClientAction := ExceptT Failure (StateM Client)

/-- What a search asks for. The values may be of any type; those that make no sense are found out
where they are used. -/
structure SearchTerms where
  query : Json
  kind : Json
  root : Json
  maxResults : Json

namespace Client

/-- A result that needs no client. -/
def give {α : Type} : Except Failure α → ClientAction α
  | .ok a => pure a
  | .error e => throw e

/-- Something done at the client's desk. -/
def atDesk {α : Type} (action : Action α) : ClientAction α := do
  let c ← get
  let (result, desk) := action.run.run c.desk
  set { c with desk := desk }
  match result with
  | .ok a => return a
  | .error e => throw e

/-- The absolute path of a file. -/
def resolveFile (file : Json) : ClientAction String := do
  match (← get).desk.files.resolve (← give (Argument.path file)) with
  | .ok path => return path.text
  | .error e => throw (.path e)

/-- The absolute path of a search root, which must be a directory. -/
def resolveRoot (root : Json) : ClientAction String := do
  let path ← resolveFile root
  match (← get).desk.files.isDirectory path with
  | .ok true => return path
  | .ok false => throw (.noWorkspace path)
  | .error e => throw (.path e)

/-- Extracts the symbols of a kind below a root. -/
def extract (kind root : Json) : ClientAction (List Occurrence) := do
  let root ← resolveRoot root
  atDesk (Desk.extract kind root)

/-- A search that answers from the cached list when there is one, and scans otherwise or when a
fresh list is asked for. -/
def search (q : SearchTerms) (refresh : Bool) : ClientAction (List Item) := do
  let root ← resolveRoot q.root
  let key := Cache.key q.kind root
  let cached ← if refresh then pure none else atDesk (Desk.cached key)
  let items ←
    match cached with
    | some items => atDesk (Desk.rescore items)
    | none => do
        let occurrences ← atDesk (Desk.extract q.kind root)
        let items ← atDesk (Desk.build root occurrences)
        atDesk (Desk.keep key items)
        pure items
  give (Argument.limited q.maxResults (← atDesk (Desk.rank items q.query)))

/-- Lets the rescan of a session land at the desk. -/
def land (s : Session) : ClientAction Session := do
  let c ← get
  let (s, desk) := s.land.run c.desk
  set { c with desk := desk }
  return s

/-- Lets every rescan in the background land. What they fail with is nobody's concern. -/
def settle : ClientAction Unit := do
  let pending := (← get).background
  modify fun c => { c with background := [] }
  pending.forM fun s => do
    let _ ← land s

/-- Waits for the rescan of a session. -/
def await (s : Session) : ClientAction Session := do
  let s ← land s
  match s.failure? with
  | some reason => throw reason
  | none => return s

/-- A search that answers from a stale list when there is one, and leaves the rescan running in the
background. It waits when there is no list yet, or when a fresh one is asked for. -/
def searchStale (q : SearchTerms) (waitFresh : Bool) : ClientAction (List Item) := do
  let root ← resolveRoot q.root
  let s ← atDesk (Session.new q.kind root).start
  let s ←
    if waitFresh || s.phase == .loading then await s
    else do
      modify fun c => { c with background := c.background ++ [s.close] }
      pure s
  let s ← if q.query.isGiven then atDesk (s.narrow q.query) else pure s
  give (Argument.limited q.maxResults s.items)

/-- Records an access to a file or symbol. -/
def recordAccess (file symbol : Json) : ClientAction Entry := do
  let file ← resolveFile file
  atDesk (Desk.record file (Argument.symbol symbol))

/-- The recency score of a file or symbol. -/
def recencyScore (file symbol : Json) : ClientAction Score := do
  let file ← resolveFile file
  atDesk (Desk.score file (Argument.symbol symbol))

/-- The lines that hold a word, optionally filtered by a query. -/
def searchText (term root query : Json) : ClientAction (List TextMatch) := do
  let root ← resolveRoot root
  let d := (← get).desk
  let rg := Ripgrep.ofConfig d.config
  let call := TextMatch.invocation rg term root
  modify fun c => { c with desk := { c.desk with calls := c.desk.calls ++ [call] } }
  let found ← give (TextMatch.search rg d.tool term root)
  give (Ranking.filterMatches found query Ranking.matchLimit)

/-- Remembers a command as the last one. -/
def remember (command : Command) : ClientAction Unit :=
  modify fun c =>
    let (store, _) := command.remember c.desk.store c.desk.config.lastCommandKey
    { c with desk := { c.desk with store := store } }

/-- The last command. -/
def lastCommand : ClientAction (Option Command) := do
  let d := (← get).desk
  match Command.last d.store d.config.lastCommandKey with
  | .ok (command, _) => return command
  | .error e => throw (.store e)

/-- The test file of a source file, or the source file of a test. -/
def sibling (file : Json) : ClientAction (Option Path) := do
  let file ← resolveFile file
  match Sibling.find? (← get).desk.files (Path.parse file) with
  | .ok found => return found
  | .error e => throw (.path e)

/-- What the settings have to say in a status report. The binary must be the name of a program. -/
def settingsReport (config : Config) : Except Failure (List (String × Json)) := do
  let binary ← Argument.path config.binary
  return [("version", .string version), ("rg_binary", .string binary)]

/-- A status report. -/
def health (c : Client) : Except Failure (List (String × Json)) := do
  return (← settingsReport c.desk.config) ++
    [("cached_keys", .int c.desk.cache.current.length),
      ("rules", .int c.desk.catalog.rules.length)]

end Client

end SymbolSearch
