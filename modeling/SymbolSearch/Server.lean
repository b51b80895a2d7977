import SymbolSearch.Client
import SymbolSearch.Listing
import SymbolSearch.Signature

namespace SymbolSearch.Server

/-- What a server can be asked for. Arguments come as structured values of any type. -/
inductive Request
  | searchSymbols (query root kind maxResults waitFresh : Json)
  | recordSymbolAccess (file symbol : Json)
  | grepText (term root query maxResults : Json)
  | recentSymbols (limit : Json)
  | clearRecency
  | health
  | catalog
  | findSymbol (name root : Json)

/-- The names of everything a server offers, in order. -/
def names : List String :=
  ["catalog", "clear_recency", "find_symbol", "grep_text", "health", "recent_symbols",
    "record_symbol_access", "search_symbols"]

/-- The arguments of each function. -/
def signature? : String → Option Signature
  | "search_symbols" =>
      some ⟨[], [("query", .string ""), ("root", .string "."),
        ("kind", .string Catalog.everything), ("max_results", .null), ("wait_fresh", .bool false)]⟩
  | "record_symbol_access" => some ⟨["file_path"], [("symbol", .null)]⟩
  | "grep_text" =>
      some ⟨["term"], [("root", .string "."), ("query", .string ""), ("max_results", .null)]⟩
  | "recent_symbols" => some ⟨[], [("limit", .int 10)]⟩
  | "clear_recency" => some ⟨[], []⟩
  | "health" => some ⟨[], []⟩
  | "catalog" => some ⟨[], []⟩
  | "find_symbol" => some ⟨["name"], [("root", .string ".")]⟩
  | _ => none

/-- The request that a function makes of its arguments. -/
def Request.ofArguments? (name : String) (a : Arguments) : Option Request :=
  match name with
  | "search_symbols" =>
      some (.searchSymbols (a.value "query") (a.value "root") (a.value "kind")
        (a.value "max_results") (a.value "wait_fresh"))
  | "record_symbol_access" =>
      some (.recordSymbolAccess (a.value "file_path") (a.value "symbol"))
  | "grep_text" =>
      some (.grepText (a.value "term") (a.value "root") (a.value "query") (a.value "max_results"))
  | "recent_symbols" => some (.recentSymbols (a.value "limit"))
  | "clear_recency" => some .clearRecency
  | "health" => some .health
  | "catalog" => some .catalog
  | "find_symbol" => some (.findSymbol (a.value "name") (a.value "root"))
  | _ => none

/-- The request that a call makes, when there is a function of that name. -/
def Request.ofCall (name : String) (given : Arguments) : Except Failure (Option Request) :=
  match signature? name with
  | none => .ok none
  | some signature => do return Request.ofArguments? name (← signature.complete given)

/-- A text given as an argument, without blanks around it. -/
def trimmedText (value : Json) : String :=
  if value.isGiven then Text.strip value.display else ""

/-- The root of a search. The current directory can be replaced by the environment. -/
def rootOf (env : Environment) (value : Json) : Json :=
  match value with
  | .string "." =>
      let other := Text.strip ((env.get? "SYMJUMP_DEFAULT_ROOT").getD "")
      .string (if other == "" then "." else other)
  | _ => value

/-- The answer to a search that failed. -/
def searchFailed (e : Failure) : String :=
  Json.line (.object [("error", .string e.message), ("results", .array [])])

/-- Symbols that match a query, best first. Unless a number of results is asked for, there are as
many as fit on the screen. -/
def searchSymbols (env : Environment) (query root kind maxResults waitFresh : Json) :
    ClientAction String := do
  let config := (← get).desk.config
  let limit :=
    match maxResults with
    | .null => config.maxVisible
    | _ => maxResults
  let terms : SearchTerms := ⟨.string (trimmedText query), kind, rootOf env root, limit⟩
  let items ← Client.searchStale terms waitFresh.isGiven
  Client.give ((Listing.json items).mapError .json)

/-- Records an access, and tells the entry with its new score. -/
def recordSymbolAccess (file symbol : Json) : ClientAction String := do
  let entry ← Client.recordAccess file symbol
  let score ← Client.recencyScore file symbol
  return Json.line
    (.object
      [("path", .string entry.path), ("last_accessed", .int entry.lastAccessed),
        ("access_count", .int entry.accessCount), ("score", .real score.score)])

/-- Lines that hold a word. -/
def grepText (env : Environment) (term root query maxResults : Json) : ClientAction String := do
  let term := trimmedText term
  if term == "" then throw .missingTerm
  let found ←
    Client.searchText (.string term) (rootOf env root) (.string (trimmedText query))
  return Listing.textMatches .json (← Client.give (Argument.limited maxResults found))

/-- The most recently opened keys. -/
def recentSymbols (limit : Json) : ClientAction String := do
  let found ← Client.atDesk (Desk.mostRecent limit)
  return Json.line (.array (found.map fun (key, s) => .object (("key", .string key) :: s.fields)))

/-- A hint for finding a symbol. -/
def findSymbol (name root : Json) : String :=
  "Call search_symbols with query '" ++ name.display ++ "' and root '" ++ root.display ++
    "'. Open the best match at its path and line, then call record_symbol_access " ++
    "with that path and symbol so it ranks higher next time."

/-- The catalog with its selectors. -/
def catalogText (c : Catalog) : String :=
  let selectors : String × Json := ("selectors", .array (c.selectors.map .string))
  match c.toJson with
  | .object fields => Json.page (.object (selectors :: fields))
  | other => Json.page other

/-- Runs an action; when it fails, a text made of the failure is the result. -/
def rescued (answer : Failure → String) (action : ClientAction String) : ClientAction String :=
  tryCatch action fun e => pure (answer e)

/-- The text that answers a request. -/
def handle (env : Environment) : Request → ClientAction String
  | .searchSymbols query root kind maxResults waitFresh =>
      rescued searchFailed (searchSymbols env query root kind maxResults waitFresh)
  | .recordSymbolAccess file symbol =>
      rescued (fun e => Json.line (.object [("error", .string e.message)]))
        (recordSymbolAccess file symbol)
  | .grepText term root query maxResults =>
      rescued searchFailed (grepText env term root query maxResults)
  | .recentSymbols limit => recentSymbols limit
  | .clearRecency => do
      Client.atDesk Desk.clearRecency
      return Json.line (.object [("status", .string "cleared")])
  | .health => do
      let report ← Client.give (← get).health
      return Json.line (.object (("status", .string "ok") :: report))
  | .catalog => do return catalogText (← get).desk.catalog
  | .findSymbol name root => pure (findSymbol name root)

/-- Whether a request waits for the rescans in the background first. -/
def settlesFirst : Request → Bool
  | .searchSymbols .. | .grepText .. => true
  | _ => false

end SymbolSearch.Server
