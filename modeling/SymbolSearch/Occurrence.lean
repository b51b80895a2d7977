import SymbolSearch.Error
import SymbolSearch.Identifier
import SymbolSearch.Record

namespace SymbolSearch

/-- A symbol declared on a line of a file. Lines and columns count from one, and the last column
belongs to the symbol. -/
structure Occurrence where
  symbol : String
  file : String
  line : Int
  startColumn : Int
  endColumn : Int
  kind : Kind
deriving Repr, DecidableEq

namespace Occurrence

/-- What identifies a symbol: its file, its line and its name. -/
def key (o : Occurrence) : String × Int × String :=
  (o.file, o.line, o.symbol)

/-- An occurrence as a structured value. -/
def toJson (o : Occurrence) : Json :=
  .object
    [("symbol", .string o.symbol), ("file", .string o.file), ("line", .int o.line),
      ("start_column", .int o.startColumn), ("end_column", .int o.endColumn),
      ("kind", .string o.kind.name)]

/-- The occurrence of a symbol found in the text of a record, unless the rule ignores it. -/
def ofFound? (rule : Rule) (record : Record) (found : Identifier.Found) : Option Occurrence :=
  if rule.ignores found.name then none
  else
    some
      { symbol := found.name
        file := Record.normalizePath record.path
        line := record.line
        startColumn := found.start + 1
        endColumn := found.stop
        kind := rule.kind }

/-- The occurrence on a line of the search tool's output that a pattern of a rule finds. -/
def parse (rule : Rule) (pattern : Pattern) (line : String) :
    Except Failure (Option Occurrence) := do
  match ← (Record.read line).mapError .variable with
  | none => return none
  | some record =>
      let found ← (Identifier.extract pattern record.text.toList).mapError .pattern
      return found.bind (ofFound? rule record)

/-- Adds an occurrence to those kept. It replaces one with the same key only when its kind has a
higher precedence, and then takes its place. -/
def keep (kept : OrderedMap (String × Int × String) Occurrence) (o : Occurrence) :
    OrderedMap (String × Int × String) Occurrence :=
  match OrderedMap.get? o.key kept with
  | none => OrderedMap.insert o.key o kept
  | some other =>
      if other.kind.precedence < o.kind.precedence then OrderedMap.insert o.key o kept else kept

/-- One occurrence for each key, in the order in which the keys first appear. -/
def deduplicate (occurrences : List Occurrence) : List Occurrence :=
  OrderedMap.values (occurrences.foldl keep [])

end Occurrence

end SymbolSearch
