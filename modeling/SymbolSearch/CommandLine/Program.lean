import SymbolSearch.Catalog.Builtin
import SymbolSearch.Client
import SymbolSearch.Text.ControlSequence

namespace SymbolSearch.CommandLine

/-- What a command runs in: the environment, the world, the typed lines, and what has been
printed. -/
structure Terminal where
  environment : Environment
  files : FileTree
  tool : SearchTool
  store : Store
  now : Int
  columns : Int
  lines : List String
  output : String
  errors : String

/-- Why a command stops before its end: with an error that it has told, or by breaking down. -/
inductive Stop
  | told
  | broken (reason : Failure)

/-- Something a command does. What it printed and stored before it stops is kept. -/
abbrev Program := ExceptT Stop (StateM Terminal)

namespace Program

/-- Prints a text. -/
def print (text : String) : Program Unit :=
  modify fun t => { t with output := t.output ++ text }

/-- Prints a line. It carries no control sequences, since the output need not go to a screen. -/
def echo (text : String) : Program Unit :=
  print (Text.withoutControlSequences text ++ "\n")

/-- Prints a line beside the output. -/
def remark (text : String) : Program Unit :=
  modify fun t => { t with errors := t.errors ++ Text.withoutControlSequences text ++ "\n" }

/-- Tells an error and stops. -/
def fail {α : Type} (text : String) : Program α := do
  remark text
  throw .told

/-- A result that a failure may keep from being there. -/
def give {α : Type} : Except Failure α → Program α
  | .ok a => pure a
  | .error e => throw (.broken e)

/-- The settings of the environment, which must at least be readable. -/
def settings : Program Config := do
  give ((Config.ofEnvironment (← get).environment).mapError .variable)

/-- A client with the settings of the environment. Settings that are unreadable or out of range are
told. -/
def client : Program Client := do
  let t ← get
  match Config.ofEnvironment t.environment with
  | .error e => fail ("Error: " ++ e.message)
  | .ok config =>
      match config.validate with
      | .error e => fail ("Error: " ++ e.message)
      | .ok () =>
          return ⟨⟨config, Catalog.builtin, CacheSlot.adopt [], Tracker.fresh, t.store, t.now,
            t.tool, t.files, []⟩, []⟩

/-- Demands that there is a place for the persistent state. -/
def needState (c : Client) : Program Unit := do
  let _ ← give (c.desk.config.statePath (← get).environment.homes)

/-- Does something with a client; what it stores is kept. -/
def attempt {α : Type} (c : Client) (action : ClientAction α) : Program (Except Failure α) := do
  let (result, c) := action.run.run c
  modify fun t => { t with store := c.desk.store }
  return result

/-- Does something with a client. -/
def perform {α : Type} (c : Client) (action : ClientAction α) : Program α := do
  give (← attempt c action)

/-- Does something with a client that needs a directory to search; a missing one is told. -/
def performIn {α : Type} (c : Client) (action : ClientAction α) : Program α := do
  match ← attempt c action with
  | .ok a => return a
  | .error (.noWorkspace path) => fail (Failure.noWorkspace path).message
  | .error e => throw (.broken e)

end Program

end SymbolSearch.CommandLine
