import SymbolSearch.Error
import SymbolSearch.Record
import SymbolSearch.Ripgrep
import SymbolSearch.Text.Case
import SymbolSearch.Text.Find

namespace SymbolSearch

/-- A line that holds a searched word. Lines and columns count from zero. -/
structure TextMatch where
  path : String
  line : Int
  column : Int
  text : String
deriving Repr, DecidableEq

namespace TextMatch

/-- The order of matches: by path, then line, then column. -/
def atMost (a b : TextMatch) : Bool :=
  if a.path != b.path then decide (a.path ≤ b.path)
  else if a.line != b.line then decide (a.line ≤ b.line)
  else decide (a.column ≤ b.column)

/-- The match on an output line. The column is where the term stands in the line without regard to
case, and the tool's own column when it does not stand there. -/
def ofRecord (root : Path) (term : String) (record : Record) : TextMatch where
  path := (root.join (Path.parse (Record.normalizePath record.path))).text
  line := record.line - 1
  column :=
    match Text.find? (Text.lowered term.toList) (Text.lowered record.text.toList) with
    | some position => position
    | none => record.column - 1
  text := record.text

/-- The call for a word below a root. -/
def invocation (rg : Ripgrep) (term : Json) (root : String) : Invocation :=
  let patterns :=
    match term with
    | .string word => [word]
    | _ => []
  ⟨rg.arguments [term] [], patterns, [], (Path.parse root).text⟩

/-- The matches on the lines of an output, in order. -/
def ofRecords (term root : String) (records : List Record) : List TextMatch :=
  (records.map (ofRecord (Path.parse root) term)).mergeSort atMost

/-- The matches on the lines of an output that was asked for a word. -/
def ofLines (term root : String) (lines : List String) : Except Failure (List TextMatch) := do
  let records ← (lines.mapM Record.read).mapError .variable
  return ofRecords term root (records.filterMap id)

/-- All lines below a root that hold a word, in order. What is no word is found out after the
call. -/
def search (rg : Ripgrep) (tool : SearchTool) (term : Json) (root : String) :
    Except Failure (List TextMatch) := do
  let lines ← (rg.search tool (invocation rg term root)).mapError .arithmetic
  match term with
  | .string word => ofLines word root lines
  | _ => throw (.noMember term.typeName "lower")

end TextMatch

end SymbolSearch
