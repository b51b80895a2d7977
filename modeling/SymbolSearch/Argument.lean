import SymbolSearch.Error
import SymbolSearch.Slice

namespace SymbolSearch.Argument

/-- A path given as an argument. -/
def path (value : Json) : Except Failure String :=
  match value with
  | .string s => .ok s
  | _ =>
      .error (.wrongType
        ("expected str, bytes or os.PathLike object, not " ++ value.typeName))

/-- Why a value is no position in a list. -/
def noPosition : Failure :=
  .wrongType "slice indices must be integers or None or have an __index__ method"

/-- The end of a part of a list, given as an argument; nothing stands for the whole list. -/
def bound (value : Json) : Except Failure (Option Int) :=
  match value with
  | .null => .ok none
  | .int n => .ok (some n)
  | .bool b => .ok (some (if b then 1 else 0))
  | _ => .error noPosition

/-- The front part of a list up to a bound given as an argument. -/
def front {α : Type} (value : Json) (xs : List α) : Except Failure (List α) := do
  match ← bound value with
  | none => return xs
  | some n => return takeTo n xs

/-- The front part of a list up to a limit given as an argument. A value that does not count as
given is no limit. -/
def limited {α : Type} (value : Json) (xs : List α) : Except Failure (List α) :=
  if value.isGiven then front value xs else .ok xs

/-- The name of a symbol given as an argument; what does not count as given is none. -/
def symbol (value : Json) : Option String :=
  if value.isGiven then some value.display else none

/-- A selector given as an argument. Values that cannot be looked up are refused; others than
strings select nothing. -/
def selector (value : Json) : Except Failure (Option String) :=
  match value with
  | .string s => .ok (some s)
  | .array _ | .object _ =>
      .error (.wrongType ("unhashable type: '" ++ value.typeName ++ "'"))
  | _ => .ok none

end SymbolSearch.Argument

namespace SymbolSearch

/-- The file that holds the persistent state. -/
def Config.statePath (homes : Homes) (c : Config) : Except Failure Path := do
  let directory := Path.parse (← Argument.path c.stateDirectory)
  let directory ← (directory.expandHome homes).mapError .path
  return directory.join (Path.parse (← Argument.path c.stateFile))

end SymbolSearch
