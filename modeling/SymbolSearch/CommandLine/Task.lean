import SymbolSearch.CommandLine.Options
import SymbolSearch.Json.Basic

namespace SymbolSearch.CommandLine

/-- A search for symbols. The values are as given now, or as remembered from an earlier search, and
then of any type. -/
structure Search where
  query : Json
  kind : Json
  root : Json
  maxResults : Json
  form : Json

/-- What a command line asks for. -/
inductive Task
  | symbols (search : Search) (interactive : Bool)
  | resume
  | openFile (file : String) (symbol : Option String) (line : Int)
  | grep (term root form query : String)
  | sibling (file : String)
  | recent (limit : Int) (form : String)
  | clearRecency
  | kinds (asJson : Bool)
  | serve (transport : String)

/-- The usage of each command. -/
def usages : List (String × Usage) :=
  let verbose : Switch := ⟨["--verbose", "-v"], .flag⟩
  let root : Switch := ⟨["--root", "-r"], .directory⟩
  let form (words : List String) : Switch := ⟨["--format", "-f"], .choice words⟩
  [("symbols",
      ⟨[⟨["--kind", "-k"], .text⟩, root, ⟨["--max-results", "-n"], .integer⟩,
        form ["console", "json", "compact", "ide"], ⟨["--interactive", "-i"], .flag⟩,
        ⟨["--progress"], .flag⟩, verbose], [.text], 0⟩),
    ("resume", ⟨[], [], 0⟩),
    ("open", ⟨[⟨["--line", "-l"], .integer⟩], [.file, .text], 1⟩),
    ("grep",
      ⟨[root, form ["console", "json", "ide"], ⟨["--filter", "-q"], .text⟩, verbose], [.text], 1⟩),
    ("sibling", ⟨[], [.file], 1⟩),
    ("recent", ⟨[⟨["--limit", "-n"], .integer⟩, form ["console", "json"]], [], 0⟩),
    ("clear-recency", ⟨[], [], 0⟩),
    ("kinds", ⟨[⟨["--json"], .flag⟩], [], 0⟩),
    ("mcp",
      ⟨[⟨["--transport"], .choice ["stdio", "sse", "streamable-http"]⟩, verbose], [], 0⟩)]

/-- The search that the command for symbols is given. -/
def Search.ofGiven (g : Given) : Search where
  query := .string (g.arguments.headD "")
  kind := .string ((g.value? "--kind").getD "all")
  root := .string ((g.value? "--root").getD ".")
  maxResults := (g.integer? "--max-results").elim .null .int
  form := .string ((g.value? "--format").getD "console")

/-- The task of a command with what was given to it. -/
def taskOf? (name : String) (g : Given) : Option Task :=
  match name with
  | "symbols" => some (.symbols (.ofGiven g) (g.has "--interactive"))
  | "resume" => some .resume
  | "open" =>
      some (.openFile (g.arguments.headD "") g.arguments[1]? ((g.integer? "--line").getD 1))
  | "grep" =>
      some (.grep (g.arguments.headD "") ((g.value? "--root").getD ".")
        ((g.value? "--format").getD "console") ((g.value? "--filter").getD ""))
  | "sibling" => some (.sibling (g.arguments.headD ""))
  | "recent" =>
      some (.recent ((g.integer? "--limit").getD 10) ((g.value? "--format").getD "console"))
  | "clear-recency" => some .clearRecency
  | "kinds" => some (.kinds (g.has "--json"))
  | "mcp" => some (.serve ((g.value? "--transport").getD "stdio"))
  | _ => none

/-- The task that a command line asks for. -/
def Task.parse (files : FileTree) (words : List String) : Except Refusal Task :=
  let words := if words.head? == some "--" then words.drop 1 else words
  match words with
  | [] => .error .misused
  | name :: rest =>
      match usages.lookup name with
      | none => .error .misused
      | some usage => do
          match taskOf? name (← usage.read files rest) with
          | some task => return task
          | none => throw .misused

end SymbolSearch.CommandLine
