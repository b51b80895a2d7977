import SymbolSearch.Pattern.Matcher
import SymbolSearch.Pattern.Parser

namespace SymbolSearch.Pattern

open SymbolSearch.Text

/-- A pattern without its escapes, that is, without each backslash and the character after it. A
backslash at the end of a line escapes nothing. -/
def withoutEscapes : List Char → List Char
  | [] => []
  | '\\' :: '\n' :: rest => '\\' :: '\n' :: withoutEscapes rest
  | '\\' :: _ :: rest => withoutEscapes rest
  | c :: rest => c :: withoutEscapes rest

/-- Whether a pattern is matched without regard to case: it is, unless some character outside an
escape is upper case. -/
def disregardsCase (cs : List Char) : Bool :=
  !hasUpper (withoutEscapes cs)

/-- Compiles a pattern with smart case. -/
def compile (source : String) : Except PatternError Pattern :=
  let cs := source.toList
  parse (if disregardsCase cs then [.ignoreCase] else []) cs

end SymbolSearch.Pattern
