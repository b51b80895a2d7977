import SymbolSearch.Catalog.Kind
import SymbolSearch.Json.Basic

namespace SymbolSearch

/-- Words that a group may match but that are never the symbol itself. -/
def reservedWords : List String :=
  ["async", "class", "const", "def", "default", "export", "func", "function", "interface", "let",
    "struct", "type", "var"]

/-- The elements of a list without repetitions, in ascending order. -/
def sortedSet (xs : List String) : List String :=
  (xs.mergeSort fun a b => decide (a ≤ b)).eraseDups

/-- An extraction rule: patterns that all find symbols of one kind in the files that match one of
the globs. Some names are ignored because they are almost always noise. -/
structure Rule where
  name : String
  patterns : List String
  globs : List String
  kind : Kind
  ignored : List String := []
  language : String := "javascript"
deriving Repr, DecidableEq

namespace Rule

/-- Whether a rule ignores a symbol. -/
def ignores (r : Rule) (symbol : String) : Bool :=
  r.ignored.contains symbol

/-- A rule as a structured value. -/
def toJson (r : Rule) : Json :=
  let strings (xs : List String) : Json := .array (xs.map .string)
  .object
    [("name", .string r.name), ("kind", .string r.kind.name), ("language", .string r.language),
      ("precedence", .int r.kind.precedence), ("patterns", strings r.patterns),
      ("globs", strings r.globs), ("ignore", strings (sortedSet r.ignored))]

end Rule

end SymbolSearch
