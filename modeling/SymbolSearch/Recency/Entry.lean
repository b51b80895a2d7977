import SymbolSearch.Json.Basic
import SymbolSearch.Number

namespace SymbolSearch

/-- What is remembered of a file or symbol: its path, when it was last opened (in milliseconds) and
how often. -/
structure Entry where
  path : String
  lastAccessed : Int
  accessCount : Int
deriving Repr, DecidableEq

namespace Entry

/-- An entry as a structured value. -/
def toJson (e : Entry) : Json :=
  .object
    [("path", .string e.path), ("last_accessed", .int e.lastAccessed),
      ("access_count", .int e.accessCount)]

/-- A time given as a structured value: an integer that fits a double, or a finite double without
its fraction. -/
def timeOf? : Json → Except ArithmeticError (Option Int)
  | .int n => do
      let _ ← Number.floatOfInt n
      return some n
  | .real x => .ok (if Decimal.isFinite x then some (Decimal.truncate x) else none)
  | _ => .ok none

/-- Reads a stored entry; a value of another shape is none. -/
def ofJson? (value : Json) : Except ArithmeticError (Option Entry) :=
  match value.field? "path" with
  | some (.string path) => do
      match ← timeOf? ((value.field? "last_accessed").getD .null) with
      | none => return none
      | some last =>
          match value.field? "access_count" with
          | some (.int count) => return if 0 ≤ count then some ⟨path, last, count⟩ else none
          | _ => return none
  | _ => .ok none

end Entry

/-- The key of a file, or of a symbol in a file. -/
def recencyKey (file : String) (symbol : Option String) : String :=
  match symbol with
  | none => file
  | some name => if name == "" then file else file ++ "#" ++ name

end SymbolSearch
