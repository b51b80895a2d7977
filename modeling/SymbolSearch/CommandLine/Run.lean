import SymbolSearch.CommandLine.Picker
import SymbolSearch.CommandLine.Program
import SymbolSearch.CommandLine.Task

namespace SymbolSearch.CommandLine

/-- The command that a search is remembered as. The root is remembered as an absolute path. -/
def Search.command (s : Search) (root : String) : Command :=
  ⟨.string "symbols",
    [("query", s.query), ("kind", s.kind), ("root", .string root), ("max_results", s.maxResults),
      ("fmt", s.form)]⟩

/-- The search that a remembered command stands for. What was not remembered is as if not given. -/
def Search.ofCommand? (c : Command) : Option Search :=
  let argument (name : String) (fallback : Json) : Json :=
    (OrderedMap.get? name c.arguments).getD fallback
  match c.name with
  | .string "symbols" =>
      some
        { query := argument "query" (.string "")
          kind := argument "kind" (.string "all")
          root := argument "root" (.string ".")
          maxResults := argument "max_results" .null
          form := argument "fmt" (.string "console") }
  | _ => none

/-- The form of a search's list. What is no name of a form stands for the console. -/
def Search.listingForm (s : Search) : Listing.Form :=
  match s.form with
  | .string name => .ofName name
  | _ => .console

/-- What a search asks for below a root. -/
def Search.terms (s : Search) (root : String) : SearchTerms :=
  ⟨s.query, s.kind, .string root, s.maxResults⟩

namespace Program

/-- Lets the user pick from the symbols of a kind below a root. -/
def pick (c : Client) (kind query : Json) (root : String) : Program Unit := do
  let t ← get
  let root ← performIn c (Client.resolveRoot (.string root))
  let ((picker, verdict), desk) :=
    (Picker.interact t.columns (Session.new kind root) query (t.lines.map .typed)).run c.desk
  modify fun t => { t with store := desk.store }
  print picker.printed
  match verdict with
  | .broken reason => throw (.broken reason)
  | _ => return

/-- Searches for symbols and lists them, or lets the user pick one. The search is remembered before
it runs. -/
def symbols (s : Search) (interactive : Bool) : Program Unit := do
  let _ ← settings
  let c ← client
  let given ← give (Argument.path s.root)
  let root ← give (((← get).files.resolve given).mapError .path)
  needState c
  perform c (Client.remember (s.command root.text))
  let c := { c with desk := { c.desk with store := (← get).store } }
  if interactive then pick c s.kind s.query root.text
  else
    let found ← performIn c (Client.search (s.terms root.text) false)
    let t ← get
    echo (← give (Listing.items t.files (.plain t.columns) s.listingForm found))

/-- Runs the last search again. -/
def resume : Program Unit := do
  let c ← client
  needState c
  let command ← perform c Client.lastCommand
  match command.bind Search.ofCommand? with
  | none => fail "No previous search to resume."
  | some search => symbols search false

/-- The column at which a name stands in a line, or the first one. -/
def columnOf (name line : String) : Nat :=
  if name == "" then 1 else ((Text.find? name.toList line.toList).getD 0) + 1

/-- Records that a symbol of a file was opened, and prints where it is. Without a symbol, the first
identifier of the line counts, and without any, the file alone. -/
def openFile (file : String) (symbol : Option String) (line : Int) : Program Unit := do
  let files := (← get).files
  let text ← give ((files.sourceLine file line).mapError .path)
  let name := (symbol.filter (· != "")).or (Identifier.first? text)
  let c ← client
  needState c
  let entry ← perform c (Client.recordAccess (.string file) (name.elim .null .string))
  let path ← give (((Path.parse file).resolve files.working).mapError .path)
  echo (path.text ++ ":" ++ Decimal.integerText line ++ ":" ++
    Decimal.integerText (columnOf (name.getD "") text))
  remark ("  " ++ name.getD "(file)" ++ " opened " ++ Listing.counted entry.accessCount "time")

/-- Lists the lines that hold a word. -/
def grep (term root form query : String) : Program Unit := do
  let _ ← settings
  let c ← client
  let found ← performIn c (Client.searchText (.string term) (.string root) (.string query))
  echo (Listing.textMatches (.ofName form) found)

/-- Prints the test file of a source file, or the source file of a test. -/
def sibling (file : String) : Program Unit := do
  let c ← client
  match ← perform c (Client.sibling (.string file)) with
  | none => fail "No sibling file found."
  | some path => echo path.text

/-- A line between the parts of the list of recent symbols. -/
def separator : String :=
  String.ofList (List.replicate 50 '─')

/-- A row of the list of recent symbols: score, count and key. -/
def recentRow (row : String × Score) : String :=
  "  " ++ Text.padLeft 6 (Decimal.fixedText 1 row.2.score) ++ "  x" ++
    Text.padRight 4 (Decimal.integerText row.2.accessCount) ++ " " ++ row.1

/-- Lists the most recently opened symbols. -/
def recent (limit : Int) (form : String) : Program Unit := do
  let c ← client
  needState c
  let rows ← perform c (Client.atDesk (Desk.mostRecent (.int limit)))
  if form == "json" then
    echo (Json.page (.array (rows.map fun (key, s) => .object (("key", .string key) :: s.fields))))
  else if rows.isEmpty then echo "No recent symbols."
  else
    echo separator
    echo "  SYMJUMP — Recent symbols"
    echo separator
    rows.forM fun row => echo (recentRow row)
    echo separator

/-- Forgets all accesses. -/
def clearRecency : Program Unit := do
  let c ← client
  needState c
  perform c (Client.atDesk Desk.clearRecency)
  echo "Recency history cleared."

/-- A row of the list of rules. -/
def ruleRow (r : Rule) : String :=
  "  " ++ Text.padRight 12 r.name ++ " " ++ Text.padRight 10 r.kind.name ++ " " ++
    Text.padRight 11 r.language ++ " " ++ Listing.counted r.patterns.length "pattern" ++ "  " ++
    String.intercalate " " r.globs

/-- Lists the selectors and the rules behind them. -/
def kinds (asJson : Bool) : Program Unit := do
  let catalog := Catalog.builtin
  if asJson then echo (Json.page catalog.toJson)
  else
    echo ("  Selectors: " ++ String.intercalate ", " catalog.selectors)
    echo ""
    catalog.rules.forM fun rule => echo (ruleRow rule)

/-- Starts a server. -/
def serve (transport : String) : Program Unit := do
  let _ ← settings
  echo ("SymJump " ++ transport)

end Program

/-- What a task does. -/
def Task.program : Task → Program Unit
  | .symbols search interactive => Program.symbols search interactive
  | .resume => Program.resume
  | .openFile file symbol line => Program.openFile file symbol line
  | .grep term root form query => Program.grep term root form query
  | .sibling file => Program.sibling file
  | .recent limit form => Program.recent limit form
  | .clearRecency => Program.clearRecency
  | .kinds asJson => Program.kinds asJson
  | .serve transport => Program.serve transport

/-- How a command line ends. -/
inductive Ending
  | done
  | told
  | broken (reason : Failure)
  | misused

/-- The exit status of each ending. -/
def Ending.status : Ending → Int
  | .done => 0
  | .told | .broken _ => 1
  | .misused => 2

/-- Runs a command line. -/
def run (words : List String) (t : Terminal) : Ending × Terminal :=
  match Task.parse t.files words with
  | .error .misused => (.misused, t)
  | .error (.broken reason) => (.broken (.path reason), t)
  | .ok task =>
      match task.program.run.run t with
      | (.ok (), t) => (.done, t)
      | (.error .told, t) => (.told, t)
      | (.error (.broken reason), t) => (.broken reason, t)

end SymbolSearch.CommandLine
