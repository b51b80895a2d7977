import SymbolSearch.Catalog.Rule

namespace SymbolSearch

/-- Rules by name, in the order in which the names were first registered. That order is the order of
scanning. -/
structure Catalog where
  entries : OrderedMap String Rule
deriving Repr

namespace Catalog

/-- No rules. -/
def empty : Catalog := ⟨[]⟩

/-- Adds a rule, or replaces the rule of the same name in its place. -/
def register (c : Catalog) (r : Rule) : Catalog :=
  ⟨OrderedMap.insert r.name r c.entries⟩

/-- The catalog of a list of rules, registered one after the other. -/
def ofRules (rules : List Rule) : Catalog :=
  rules.foldl register empty

/-- The rule with the given name. -/
def rule? (c : Catalog) (name : String) : Option Rule :=
  OrderedMap.get? name c.entries

/-- All rules in order. -/
def rules (c : Catalog) : List Rule :=
  OrderedMap.values c.entries

/-- The names of all rules in order. -/
def names (c : Catalog) : List String :=
  OrderedMap.keys c.entries

/-- The names of the kinds that some rule produces. -/
def kindNames (c : Catalog) : List String :=
  (Kind.all.filter fun kind => c.rules.any fun r => r.kind == kind).map Kind.name

/-- The selector that stands for every rule. -/
def everything : String := "all"

/-- Every selector that selects something: the one for all rules, kinds, and the rule names that are
not also kinds. -/
def selectors (c : Catalog) : List String :=
  everything :: (c.kindNames ++ c.names.filter fun name => !c.kindNames.contains name)

/-- The rules that a selector stands for: all of them, those of a kind, or the one with that name.
An unknown selector stands for none. -/
def rulesFor (c : Catalog) (selector : String) : List Rule :=
  if selector == everything then c.rules
  else
    match c.rules.filter fun r => r.kind.name == selector with
    | [] => (c.rule? selector).toList
    | found => found

/-- The whole catalog as a structured value. -/
def toJson (c : Catalog) : Json :=
  .object
    [("precedence", .object (Kind.byPrecedence.map fun kind => (kind.name, .int kind.precedence))),
      ("reserved_keywords", .array ((sortedSet reservedWords).map .string)),
      ("rules", .array (c.rules.map Rule.toJson))]

end Catalog

end SymbolSearch
