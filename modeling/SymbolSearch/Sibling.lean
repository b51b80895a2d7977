import SymbolSearch.FileTree

namespace SymbolSearch.Sibling

/-- What separates a test mark from the name of the tested file, in the order tried. -/
def separators : List String := ["-", ".", "_"]

/-- The marks of test files, in the order tried. -/
def marks : List String := ["test", "spec"]

/-- Every separator with every mark. -/
def endings : List String :=
  separators.flatMap fun sep => marks.map fun mark => sep ++ mark

/-- The stem of the tested file, when a stem is that of a test. A line feed at the end of the stem
is passed over. -/
def tested? (stem : String) : Option String :=
  let cs := stem.toList
  let (front, tail) := if cs.getLast? == some '\n' then (cs.dropLast, ['\n']) else (cs, [])
  let found := endings.find? fun ending => ending.toList.isSuffixOf front
  found.map fun ending => String.ofList (front.take (front.length - ending.length) ++ tail)

/-- The paths that would be the sibling of a file, in the order looked up: the source of a test
file, or the tests of a source file. -/
def candidates (path : Path) : Except PathError (List Path) :=
  match tested? path.stem with
  | some stem => do return [← path.withName (stem ++ path.suffix)]
  | none => endings.mapM fun ending => path.withName (path.stem ++ ending ++ path.suffix)

/-- The first sibling that exists. -/
def find? (tree : FileTree) (path : Path) : Except PathError (Option Path) := do
  return (← candidates path).find? fun candidate => tree.isFile candidate.text

end SymbolSearch.Sibling
