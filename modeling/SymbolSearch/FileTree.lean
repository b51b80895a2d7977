import SymbolSearch.OrderedMap
import SymbolSearch.Path
import SymbolSearch.Text.Lines
import SymbolSearch.Text.Utf8

namespace SymbolSearch

/-- The files and directories that a search can see, the paths that may name directories for all
that the system tells, the working directory and the home directories. Names are absolute; there are
no links. -/
structure FileTree where
  files : OrderedMap String (List UInt8)
  directories : List String
  hidden : OrderedMap String Hindrance
  working : String
  homes : Homes

namespace FileTree

/-- A path in the form in which the tree names it. -/
def key (t : FileTree) (path : String) : String :=
  ((Path.parse path).absolute t.working).text

/-- Whether a path names a file. -/
def isFile (t : FileTree) (path : String) : Bool :=
  OrderedMap.contains (t.key path) t.files

/-- Whether a directory is an ancestor of a path, or that path itself. -/
def covers (directory path : String) : Bool :=
  (Path.parse directory).parts.isPrefixOf (Path.parse path).parts

/-- Whether a path names a directory: a listed one, the working directory, or an ancestor of a file
or of one of these. -/
def isDirectory (t : FileTree) (path : String) : Except PathError Bool :=
  let name := t.key path
  match OrderedMap.get? name t.hidden with
  | some reason => .error (.hidden name reason)
  | none =>
      .ok (!t.isFile path &&
        (name == "/" || (t.working :: t.directories).any (covers name) ||
          t.files.any fun file => covers name file.1))

/-- The bytes of a file. -/
def contents? (t : FileTree) (path : String) : Option (List UInt8) :=
  OrderedMap.get? (t.key path) t.files

/-- A line of a file, counted from one; empty when there is no such line or no such file. -/
def lineOf (t : FileTree) (path : String) (line : Int) : String :=
  match t.contents? path with
  | none => ""
  | some bytes =>
      if line < 1 then ""
      else
        match (Text.fileLines (Text.Utf8.decode bytes))[(line - 1).toNat]? with
        | some cs => String.ofList cs
        | none => ""

/-- A line of a file whose path can be one. -/
def sourceLine (t : FileTree) (path : String) (line : Int) : Except PathError String :=
  if path.toList.contains (Char.ofNat 0) then .error .embeddedNull else .ok (t.lineOf path line)

/-- A path after its home directory and its dots are resolved. -/
def resolve (t : FileTree) (path : String) : Except PathError Path := do
  ((← (Path.parse path).expandHome t.homes)).resolve t.working

end FileTree

end SymbolSearch
