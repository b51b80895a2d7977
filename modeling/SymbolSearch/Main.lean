import Std.Time.DateTime.Timestamp
import SymbolSearch.CommandLine.Run

namespace SymbolSearch.CommandLine

/-- The variables that settings are read from. -/
def variableNames : List String :=
  ["SYMJUMP_RG", "SYMJUMP_RG_TIMEOUT", "SYMJUMP_MAX_WORKERS", "SYMJUMP_STATE_DIR",
    "SYMJUMP_LOG_LEVEL", "SYMJUMP_DEFAULT_ROOT"]

/-- The bytes of a file, when a path names one. -/
def bytesOf? (path : String) : IO (Option (List UInt8)) := do
  match ← (IO.FS.readBinFile path).toBaseIO with
  | .ok bytes => return some bytes.toList
  | .error _ => return none

/-- The home directories of the users that the system knows by name. -/
def readHomes : IO (OrderedMap String String) := do
  let lines := Text.fileLines (Text.Utf8.decode ((← bytesOf? "/etc/passwd").getD []))
  return OrderedMap.ofList <| lines.filterMap fun line =>
    match (Text.splitAt ':' line).map String.ofList with
    | [name, _, _, _, _, home, _] => some (name, home)
    | _ => none

/-- Reads the environment. -/
def readEnvironment : IO Environment := do
  let entries ← variableNames.filterMapM fun name => do
    return (← IO.getEnv name).map fun value => (name, value)
  return ⟨entries, (← IO.getEnv "HOME").getD "/", ← readHomes⟩

/-- Adds what a path names, a file or a directory. -/
def addPath (t : FileTree) (path : Path) : IO FileTree := do
  match ← (IO.FS.readBinFile path.text).toBaseIO with
  | .ok bytes => return { t with files := OrderedMap.insert path.text bytes.toList t.files }
  | .error (.inappropriateType ..) => return { t with directories := path.text :: t.directories }
  | .error _ => return t

/-- The part of the file system that some words name, with the siblings of files. -/
def readTree (homes : Homes) (words : List String) : IO FileTree := do
  let working := toString (← IO.currentDir)
  let mut t : FileTree := ⟨[], [], [], working, homes⟩
  for word in words do
    for path in (Path.parse word) :: ((Path.parse word).expandHome homes).toOption.toList do
      let path := path.absolute working
      for named in path :: (Sibling.candidates path).toOption.getD [] do
        t ← addPath t named
  return t

/-- Reads the state that earlier commands left. -/
def readStore (path : String) : IO Store := do
  match ← bytesOf? path with
  | none => return .newDatabase
  | some bytes =>
      match Json.parse? (String.ofList (Text.Utf8.decode bytes)) with
      | some (.object fields) =>
          let table : Table := fields.filterMap fun (key, value) =>
            match value with
            | .string text => some (.string key, .string key, text)
            | _ => none
          return ⟨.database table none, none⟩
      | _ => return .corrupt .newDatabase

/-- The texts of a store by key. -/
def textsOf (store : Store) : List (String × String) :=
  (OrderedMap.values store.table).map fun (key, text) => (key.display, text)

/-- Leaves the state for later commands. -/
def writeStore (directory path : String) (store : Store) : IO Unit := do
  IO.FS.createDirAll directory
  let fields := (textsOf store).map fun (key, text) => (key, Json.string text)
  IO.FS.writeFile path (Json.line (.object fields))

/-- The words that a remembered command was given. -/
def rememberedWords (config : Config) (store : Store) : List String :=
  match Command.last store config.lastCommandKey with
  | .ok (some command, _) =>
      command.arguments.filterMap fun (_, value) => (Argument.path value).toOption
  | _ => []

/-- The lines typed at the prompt of an interactive search. -/
def readLines (words : List String) : IO (List String) := do
  if words.any fun word => ["-i", "--interactive"].contains word then
    let text ← (← IO.getStdin).readToEnd
    return (Text.fileLines text.toList).map String.ofList
  else return []

end SymbolSearch.CommandLine

open SymbolSearch SymbolSearch.CommandLine in
/-- Runs a command line. The search tool is not started from here, so that searches answer as they
do where it is not installed. -/
def main (words : List String) : IO UInt32 := do
  let environment ← readEnvironment
  let config := (Config.ofEnvironment environment).toOption.getD (.defaults environment.home)
  let statePath := (config.statePath environment.homes).toOption.getD (Path.parse "state.db")
  let stateDirectory : Path := ⟨statePath.root, statePath.parts.dropLast⟩
  let store ← readStore statePath.text
  let files ← readTree environment.homes (words ++ rememberedWords config store)
  let now := (← Std.Time.Timestamp.now).toMillisecondsSinceUnixEpoch
  let columns := (← IO.getEnv "COLUMNS").bind String.toInt?
  let (ending, t) := run words
    ⟨environment, files, fun _ => .missing, store, now.val, columns.getD 80, ← readLines words, "",
      ""⟩
  if textsOf t.store != textsOf store then writeStore stateDirectory.text statePath.text t.store
  IO.print t.output
  IO.eprint t.errors
  if let .broken reason := ending then IO.eprintln reason.message
  return ending.status.toNat.toUInt32
