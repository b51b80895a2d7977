import SymbolSearch.Language
import SymbolSearch.Occurrence
import SymbolSearch.Operand
import SymbolSearch.Recency.Entry
import SymbolSearch.Sorting

namespace SymbolSearch

/-- An occurrence below a root, with a score: that of recency in a whole list, the combined one in a
filtered list. -/
structure Item extends Occurrence where
  score : Number
  root : String

namespace Item

/-- An occurrence without a score yet. -/
def ofOccurrence (o : Occurrence) (root : String) : Item :=
  { o with score := .real 0, root := root }

/-- The path of the file, with the root in front when there is one. -/
def path (i : Item) : String :=
  if i.root == "" then i.file else joinNames i.root i.file

/-- Path, line and column, as editors understand them. -/
def location (i : Item) : String :=
  i.path ++ ":" ++ Decimal.integerText i.line ++ ":" ++ Decimal.integerText i.startColumn

/-- The key under which accesses to the symbol are remembered. -/
def recencyKey (i : Item) : String :=
  SymbolSearch.recencyKey i.path (some i.symbol)

/-- The same symbol with another score. -/
def withScore (i : Item) (score : Number) : Item :=
  { i with score := score }

/-- An item as a structured value. -/
def toJson (i : Item) : Json :=
  .object
    [("symbol", .string i.symbol), ("file", .string i.file), ("line", .int i.line),
      ("start_column", .int i.startColumn), ("end_column", .int i.endColumn),
      ("kind", .string i.kind.name), ("score", .ofNumber i.score), ("root", .string i.root),
      ("path", .string i.path), ("language", .string (languageOf i.file))]

/-- Whether an item comes strictly before another: a higher score first, then by symbol, file and
line. A score that is no number comes neither before nor after any other. -/
def before (a b : Item) : Bool :=
  match a.score.compare? b.score with
  | none => false
  | some .gt => true
  | some .lt => false
  | some .eq =>
      if a.symbol != b.symbol then decide (a.symbol < b.symbol)
      else if a.file != b.file then decide (a.file < b.file)
      else decide (a.line < b.line)

/-- Whether the order places an item at all. -/
def isPlaced (i : Item) : Bool :=
  (i.score.compare? i.score).isSome

/-- The items in order; those that the order does not tell apart keep theirs. Where some have no
place in the order, the result is that of inserting one after the other. -/
def sort (items : List Item) : List Item :=
  if items.all isPlaced then items.mergeSort fun a b => !before b a
  else Sorting.byInsertion before items

end Item

end SymbolSearch
