import SymbolSearch.Client
import SymbolSearch.Signature

namespace SymbolSearch

/-- What a call of a client by name answers. -/
inductive Answer
  | items (found : List Item)
  | occurrences (found : List Occurrence)
  | textMatches (found : List TextMatch)
  | entry (e : Entry)
  | score (s : Score)
  | recent (rows : List (String × Score))
  | command (c : Option Command)
  | sibling (path : Option Path)
  | health (report : List (String × Json))
  | done

/-- A function of a client: the arguments it takes, whether it waits for the rescans in the
background first, and what it does with its arguments. -/
structure Operation where
  signature : Signature
  settlesFirst : Bool
  act : Arguments → ClientAction Answer

namespace Operation

/-- The arguments of a search, and a switch of the given name. -/
def searchSignature (switch : String) : Signature :=
  ⟨[], [("query", .string ""), ("kind", .string Catalog.everything), ("root", .string "."),
    ("max_results", .null), (switch, .bool false)]⟩

/-- What the arguments of a search ask for. -/
def termsOf (a : Arguments) : SearchTerms :=
  ⟨a.value "query", a.value "kind", a.value "root", a.value "max_results"⟩

/-- A search. Whether progress is shown is no matter of the answer. -/
def search : Operation where
  signature :=
    let s := searchSignature "refresh"
    { s with optional := s.optional ++ [("show_progress", .bool false)] }
  settlesFirst := false
  act a := do return .items (← Client.search (termsOf a) (a.value "refresh").isGiven)

/-- A search that may answer from a stale list. -/
def searchStale : Operation where
  signature := searchSignature "wait_fresh"
  settlesFirst := true
  act a := do return .items (← Client.searchStale (termsOf a) (a.value "wait_fresh").isGiven)

/-- The arguments of an extraction. -/
def extractSignature : Signature :=
  ⟨[], [("kind", .string Catalog.everything), ("root", .string ".")]⟩

/-- Extracts symbols. -/
def runExtract (a : Arguments) : ClientAction Answer := do
  return .occurrences (← Client.extract (a.value "kind") (a.value "root"))

/-- An extraction. -/
def extract : Operation where
  signature :=
    { extractSignature with
      optional := extractSignature.optional ++ [("show_progress", .bool false)] }
  settlesFirst := false
  act := runExtract

/-- An extraction that waits for its turn. -/
def extractInTurn : Operation :=
  ⟨extractSignature, true, runExtract⟩

/-- A search for a word. -/
def searchText (settlesFirst : Bool) : Operation where
  signature := ⟨["term"], [("root", .string "."), ("query", .string "")]⟩
  settlesFirst := settlesFirst
  act a := do
    return .textMatches (← Client.searchText (a.value "term") (a.value "root") (a.value "query"))

/-- The arguments that name a file or a symbol in it. -/
def fileSignature : Signature :=
  ⟨["file_path"], [("symbol", .null)]⟩

/-- Records an access. -/
def recordAccess : Operation where
  signature := fileSignature
  settlesFirst := false
  act a := do return .entry (← Client.recordAccess (a.value "file_path") (a.value "symbol"))

/-- Asks for a recency score. -/
def recencyScore : Operation where
  signature := fileSignature
  settlesFirst := false
  act a := do return .score (← Client.recencyScore (a.value "file_path") (a.value "symbol"))

/-- Asks for the most recent keys. -/
def recent : Operation where
  signature := ⟨[], [("limit", .int 10)]⟩
  settlesFirst := false
  act a := do return .recent (← Client.atDesk (Desk.mostRecent (a.value "limit")))

/-- Remembers a command. -/
def rememberCommand : Operation where
  signature := ⟨["command"], [("args", .null)]⟩
  settlesFirst := false
  act a := do
    let arguments ← Client.give (Command.argumentsOf (a.value "args"))
    let command : Command := ⟨a.value "command", arguments⟩
    Client.remember command
    return .command (some command)

/-- Asks for the last command. -/
def lastCommand : Operation where
  signature := ⟨[], []⟩
  settlesFirst := false
  act _ := do return .command (← Client.lastCommand)

/-- Asks for the sibling of a file. -/
def sibling : Operation where
  signature := ⟨["file_path"], []⟩
  settlesFirst := false
  act a := do return .sibling (← Client.sibling (a.value "file_path"))

/-- Asks for a status report. -/
def health : Operation where
  signature := ⟨[], []⟩
  settlesFirst := false
  act _ := do return .health (← Client.give (← get).health)

/-- Waits for the rescans in the background. -/
def drain : Operation where
  signature := ⟨[], []⟩
  settlesFirst := true
  act _ := return .done

/-- Forgets all accesses. -/
def clearRecency : Operation where
  signature := ⟨[], []⟩
  settlesFirst := false
  act _ := do
    Client.atDesk Desk.clearRecency
    return .done

/-- Lets go of the store, which stays usable. -/
def close : Operation where
  signature := ⟨[], []⟩
  settlesFirst := false
  act _ := return .done

/-- The function with the given name. -/
def named? : String → Option Operation
  | "search" => some search
  | "asearch" => some searchStale
  | "extract" => some extract
  | "aextract" => some extractInTurn
  | "search_text" => some (searchText false)
  | "asearch_text" => some (searchText true)
  | "record_access" => some recordAccess
  | "recency_score" => some recencyScore
  | "recent" => some recent
  | "remember_command" => some rememberCommand
  | "last_command" => some lastCommand
  | "sibling" => some sibling
  | "health" => some health
  | "drain" => some drain
  | "clear_recency" => some clearRecency
  | "close" => some close
  | _ => none

/-- Calls a function with arguments given by name. -/
def call (o : Operation) (given : Arguments) : ClientAction Answer := do
  if o.settlesFirst then Client.settle
  o.act (← Client.give (o.signature.complete given))

end Operation

end SymbolSearch
