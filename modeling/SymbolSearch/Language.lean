import SymbolSearch.Path
import SymbolSearch.Text.Case

namespace SymbolSearch

/-- The language of each known file suffix. -/
def suffixLanguages : List (String × String) :=
  [(".js", "javascript"), (".jsx", "javascriptreact"), (".ts", "typescript"),
    (".tsx", "typescriptreact"), (".go", "go"), (".py", "python"), (".html", "html"),
    (".css", "css"), (".json", "json"), (".md", "markdown"), (".yml", "yaml"), (".yaml", "yaml"),
    (".sh", "shellscript"), (".bash", "shellscript"), (".php", "php"), (".rb", "ruby"),
    (".java", "java"), (".c", "c"), (".cpp", "cpp"), (".h", "cpp"), (".cs", "csharp"),
    (".fs", "fsharp"), (".rs", "rust"), (".swift", "swift"), (".sql", "sql")]

/-- The language of a file, told from its suffix without regard to case. -/
def languageOf (file : String) : String :=
  (suffixLanguages.lookup (Text.lower (Path.parse file).suffix)).getD "plaintext"

end SymbolSearch
