import SymbolSearch.Json.Basic
import SymbolSearch.Number
import SymbolSearch.Text.Printable

namespace SymbolSearch.Json

mutual

/-- A value as it is shown inside another one; strings are quoted. -/
def inner : Json → String
  | .null => "None"
  | .bool true => "True"
  | .bool false => "False"
  | .int n => Decimal.integerText n
  | .real x => Decimal.shortestText x
  | .string s => Text.quoted s
  | .array items => "[" ++ String.intercalate ", " (innerItems items) ++ "]"
  | .object fields => "\x7b" ++ String.intercalate ", " (innerFields fields) ++ "\x7d"
  | .foreign => "<object object>"

/-- The items of an array as they are shown. -/
def innerItems : List Json → List String
  | [] => []
  | v :: vs => inner v :: innerItems vs

/-- The fields of an object as they are shown. -/
def innerFields : List (String × Json) → List String
  | [] => []
  | (k, v) :: rest => (Text.quoted k ++ ": " ++ inner v) :: innerFields rest

end

/-- A value as text; a string stands for itself. -/
def display : Json → String
  | .string s => s
  | v => v.inner

/-- Whether a value counts as given: not null, false, zero, or empty. -/
def isGiven : Json → Bool
  | .null => false
  | .bool b => b
  | .int n => n != 0
  | .real x => x != 0
  | .string s => s != ""
  | .array items => !items.isEmpty
  | .object fields => !fields.isEmpty
  | .foreign => true

end SymbolSearch.Json
