import SymbolSearch.Error

namespace SymbolSearch

/-- Arguments given by name, as values of any type. -/
abbrev Arguments := List (String × Json)

/-- The argument with the given name; null when there is none. -/
def Arguments.value (a : Arguments) (name : String) : Json :=
  (OrderedMap.get? name a).getD .null

/-- The arguments that a function takes: those that must be given, and the others with the values
that stand in for them. -/
structure Signature where
  required : List String
  optional : Arguments

namespace Signature

/-- The names of all arguments. -/
def names (s : Signature) : List String :=
  s.required ++ OrderedMap.keys s.optional

/-- Completes the arguments given. Every name must be known, and nothing required may be missing. -/
def complete (s : Signature) (given : Arguments) : Except Failure Arguments :=
  let names := OrderedMap.keys given
  match names.find? fun name => !s.names.contains name with
  | some name => .error (.wrongType ("unexpected argument '" ++ name ++ "'"))
  | none =>
      match s.required.find? fun name => !names.contains name with
      | some name => .error (.wrongType ("missing argument '" ++ name ++ "'"))
      | none => .ok (given ++ s.optional.filter fun entry => !names.contains entry.1)

end Signature

end SymbolSearch
