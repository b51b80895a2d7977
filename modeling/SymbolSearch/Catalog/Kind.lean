namespace SymbolSearch

/-- What a symbol is declared as. -/
inductive Kind
  | classDecl
  | function
  | method
  | variableDecl
  | typeDecl
  | interface
  | schema
  | component
  | unknown
deriving Repr, DecidableEq

namespace Kind

/-- All kinds, in the order in which they are listed. -/
def all : List Kind :=
  [.classDecl, .function, .method, .variableDecl, .typeDecl, .interface, .schema, .component,
    .unknown]

/-- The name of a kind. -/
def name : Kind → String
  | .classDecl => "class"
  | .function => "function"
  | .method => "method"
  | .variableDecl => "variable"
  | .typeDecl => "type"
  | .interface => "interface"
  | .schema => "schema"
  | .component => "component"
  | .unknown => "unknown"

/-- The kind with the given name. -/
def ofName? (s : String) : Option Kind :=
  all.find? fun kind => kind.name == s

/-- Which kind survives when two rules find one symbol on one line: the one with the higher
precedence. -/
def precedence : Kind → Nat
  | .schema => 100
  | .classDecl => 90
  | .interface => 80
  | .typeDecl => 70
  | .component => 60
  | .function => 50
  | .method => 40
  | .variableDecl => 10
  | .unknown => 0

/-- All kinds, highest precedence first. -/
def byPrecedence : List Kind :=
  [.schema, .classDecl, .interface, .typeDecl, .component, .function, .method, .variableDecl,
    .unknown]

theorem mem_all (kind : Kind) : kind ∈ all := by
  cases kind <;> decide

end Kind

end SymbolSearch
