import SymbolSearch.Notice
import SymbolSearch.Store

namespace SymbolSearch

/-- A command with its arguments. The name of one that was read back is a string. -/
structure Command where
  name : Json
  arguments : List (String × Json)

namespace Command

/-- The name of an argument, given as a value of any type. Arrays and objects name nothing. -/
def argumentName : Json → Except Failure String
  | .string s => .ok s
  | .array items => .error (.wrongType ("unhashable type: '" ++ (Json.array items).typeName ++ "'"))
  | .object fields =>
      .error (.wrongType ("unhashable type: '" ++ (Json.object fields).typeName ++ "'"))
  | value => .ok value.line

/-- The parts of a value that can be taken apart. -/
def parts? : Json → Option (List Json)
  | .array items => some items
  | .string s => some (s.toList.map fun c => .string (String.ofList [c]))
  | .object fields => some (fields.map fun field => .string field.1)
  | _ => none

/-- An argument given as a pair, which is the item with the given number of a list. -/
def pair (index : Nat) (value : Json) : Except Failure (String × Json) :=
  match parts? value with
  | some [name, content] => do return (← argumentName name, content)
  | some items => .error (.unequalPair index items.length)
  | none =>
      .error (.wrongType
        ("cannot convert dictionary update sequence element #" ++ Decimal.digits index ++
          " to a sequence"))

/-- Arguments given as a value of any type: an object, or pairs one after the other. What does not
count as given is no argument at all. -/
def argumentsOf (value : Json) : Except Failure (List (String × Json)) :=
  if !value.isGiven then .ok []
  else
    match value with
    | .object fields => .ok fields
    | _ =>
        match parts? value with
        | some items => do
            return OrderedMap.ofList (← items.zipIdx.mapM fun (item, index) => pair index item)
        | none => .error (.wrongType ("'" ++ value.typeName ++ "' object is not iterable"))

/-- A command as a structured value. -/
def toJson (c : Command) : Json :=
  .object [("command", c.name), ("args", .object c.arguments)]

/-- Reads a stored command. Arguments that are not an object count as none. -/
def ofJson? (value : Json) : Option Command :=
  match value.field? "command" with
  | some (.string name) =>
      match value.field? "args" with
      | some (.object arguments) => some ⟨.string name, arguments⟩
      | _ => some ⟨.string name, []⟩
  | _ => none

/-- Remembers a command as the last one. -/
def remember (store : Store) (key : Json) (c : Command) : Store × List Notice :=
  match store.set key c.toJson with
  | .ok store => (store, [])
  | .error error => (store.afterFailure key c.toJson, [.commandNotRemembered error])

/-- The last command, when one is remembered. -/
def last (store : Store) (key : Json) : Except StoreError (Option Command × List Notice) := do
  match ← store.get key .null with
  | .null => return (none, [])
  | value =>
      match ofJson? value with
      | some command => return (some command, [])
      | none => return (none, [.malformedCommand])

/-- Forgets the last command. -/
def forget (store : Store) (key : Json) : Store × List Notice :=
  match store.set key .null with
  | .ok store => (store, [])
  | .error error => (store.afterFailure key .null, [.commandNotCleared error])

end Command

end SymbolSearch
