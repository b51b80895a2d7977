import SymbolSearch.Catalog.Basic

namespace SymbolSearch.Catalog

/-- Files of the script languages. -/
def scriptGlobs : List String :=
  ["*.ts", "*.tsx", "*.js", "*.jsx"]

/-- Files of the typed script language. -/
def typedScriptGlobs : List String :=
  ["*.ts", "*.tsx"]

/-- Hooks of test frameworks and constructors, which look exactly like methods. -/
def methodNoise : List String :=
  ["expect", "describe", "it", "beforeAll", "beforeEach", "afterEach", "afterAll", "constructor"]

/-- The rules for script files. The identifier is the last group that can be one; modifiers stand in
groups before it. -/
def scriptRules : List Rule :=
  [ { name := "class"
      patterns := ["\\bclass\\s+([A-Z][a-zA-Z0-9_]*)"]
      globs := scriptGlobs
      kind := .classDecl },
    { name := "function"
      patterns :=
        ["\\bfunction\\s+([a-zA-Z0-9_]+)\\s*\\(",
          "\\b(const|let|var)\\s+([a-zA-Z0-9_]+)\\s*=\\s*(async\\s*)?\\(?\\s*.*=>"]
      globs := scriptGlobs
      kind := .function },
    { name := "method"
      patterns :=
        ["^\\s*(public|private|protected|static|async|\\s)*\\s*([a-zA-Z0-9_]+)\\("]
      globs := scriptGlobs
      kind := .method
      ignored := methodNoise },
    { name := "variable"
      patterns := ["\\b(const|let|var)\\s+([a-zA-Z0-9_]+)\\s*="]
      globs := scriptGlobs
      kind := .variableDecl },
    { name := "type"
      patterns := ["\\btype\\s+([A-Za-z0-9_]+)\\s*="]
      globs := typedScriptGlobs
      kind := .typeDecl
      language := "typescript" },
    { name := "interface"
      patterns := ["\\binterface\\s+([A-Za-z0-9_]+)\\s*\\\x7b"]
      globs := typedScriptGlobs
      kind := .interface
      language := "typescript" },
    { name := "schema"
      patterns :=
        ["(?:^|\\b)(?:export\\s+)?(const|let|var)\\s+([a-zA-Z0-9_]+)\\s*=\\s*z\\."]
      globs := scriptGlobs
      kind := .schema },
    { name := "component"
      patterns :=
        ["\\b(export\\s+)?(const|let|var|function|class)\\s+([A-Z][a-zA-Z0-9]*)\\s*" ++
            "(=\\s*(function\\s*\\(|(React\\.)?memo\\(|(React\\.)?forwardRef(?:<[^>]+>)?\\(|\\()" ++
            "|extends\\s+React\\.Component|\\(|:)",
          "\\b(export\\s+)?function\\s+([A-Z][a-zA-Z0-9]*)\\s*<[^>]+>",
          "\\b(export\\s+)?const\\s+([A-Z][a-zA-Z0-9]*)\\s*=\\s*<[^>]+>"]
      globs := scriptGlobs
      kind := .component } ]

/-- The rules for Go files. -/
def goRules : List Rule :=
  [ { name := "go_func"
      patterns :=
        ["\\bfunc\\s+([A-Za-z0-9_]+)\\s*\\(",
          "\\bfunc\\s+\\([^)]+\\)\\s+([A-Za-z0-9_]+)\\s*\\("]
      globs := ["*.go"]
      kind := .function
      language := "go" },
    { name := "go_type"
      patterns :=
        ["\\btype\\s+([A-Za-z0-9_]+)\\s+struct",
          "\\btype\\s+([A-Za-z0-9_]+)\\s+interface",
          "\\btype\\s+([A-Za-z0-9_]+)\\s+"]
      globs := ["*.go"]
      kind := .typeDecl
      language := "go" } ]

/-- The rules for Python files. -/
def pythonRules : List Rule :=
  [ { name := "py_class"
      patterns := ["^\\s*class\\s+([A-Za-z_][A-Za-z0-9_]*)\\s*[(:]"]
      globs := ["*.py"]
      kind := .classDecl
      language := "python" },
    { name := "py_function"
      patterns := ["^\\s*(async\\s+)?def\\s+([A-Za-z_][A-Za-z0-9_]*)\\s*\\("]
      globs := ["*.py"]
      kind := .function
      language := "python" } ]

/-- The rules that every catalog starts with. -/
def builtinRules : List Rule :=
  scriptRules ++ goRules ++ pythonRules

/-- The catalog of the built-in rules. -/
def builtin : Catalog :=
  ofRules builtinRules

end SymbolSearch.Catalog
