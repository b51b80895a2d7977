import SymbolSearch.Decimal.Reading
import SymbolSearch.Json.Display
import SymbolSearch.Operand
import SymbolSearch.Path
import SymbolSearch.Text.Case
import SymbolSearch.Text.Printable

namespace SymbolSearch

/-- A setting out of its range, or one that has no place among numbers at all. -/
inductive ConfigError
  | timeout (value : Json)
  | outputLimit
  | workers (value : Json)
  | entries
  | frequencyCap
  | decay (value : Json)
  | weight (name : String) (value : Json)
  | visibleItems
  | notANumber (error : ArithmeticError)

namespace ConfigError

/-- The wording of an error. -/
def message : ConfigError → String
  | .timeout value =>
      "rg_timeout_seconds must be positive (got " ++ value.display ++
        ").\n  Set via: export SYMJUMP_RG_TIMEOUT=10"
  | .outputLimit => "rg_max_output_bytes must be positive."
  | .workers value =>
      "max_workers must be at least 1 (got " ++ value.display ++
        ").\n  Set via: export SYMJUMP_MAX_WORKERS=4"
  | .entries => "max_recency_entries must be at least 1."
  | .frequencyCap => "frequency_cap must be at least 1."
  | .decay value => "decay_factor must be in (0, 1] (got " ++ value.display ++ ")."
  | .weight name value => name ++ " must be between 0 and 1 (got " ++ value.display ++ ")."
  | .visibleItems => "max_visible_items must be at least 1."
  | .notANumber error => error.message

end ConfigError

/-- An environment variable that does not hold the number it should. -/
inductive VariableError
  | notReal (text : String)
  | notInteger (text : String)
  | tooManyDigits (count : Nat)
deriving Repr, DecidableEq

namespace VariableError

/-- How much of a text that is no integer is shown. -/
def shownLength : Nat := 200

/-- The wording of an error. -/
def message : VariableError → String
  | .notReal text => "could not convert string to float: " ++ Text.quoted text
  | .notInteger text =>
      "invalid literal for int() with base 10: " ++
        String.ofList ((Text.quoted text).toList.take shownLength)
  | .tooManyDigits count =>
      "Exceeds the limit (" ++ Decimal.digits Decimal.maxDigits ++
        " digits) for integer string conversion: value has " ++ Decimal.digits count ++
        " digits; use sys.set_int_max_str_digits() to increase the limit"

end VariableError

/-- The settings of extraction, recency, ranking and logging. They are kept as they are given, as
values of any type; what makes no sense is found out where a setting is used. -/
structure Config where
  binary : Json
  timeout : Json
  maxOutput : Json
  maxFileSize : Json
  workers : Json
  stateDirectory : Json
  stateFile : Json
  recencyKey : Json
  lastCommandKey : Json
  maxEntries : Json
  recencyWeight : Json
  decay : Json
  maxAge : Json
  frequencyCap : Json
  maxScore : Json
  fuzzyWeight : Json
  recencyRankWeight : Json
  maxVisible : Json
  logLevel : Json
  logFormat : Json

/-- What a program learns from its surroundings when it starts. -/
structure Environment where
  entries : List (String × String)
  homes : Homes

/-- The home directory of the user. -/
def Environment.home (e : Environment) : String :=
  e.homes.own

/-- The value of a variable. -/
def Environment.get? (e : Environment) (name : String) : Option String :=
  e.entries.lookup name

namespace Config

/-- The settings of an installation with the given home directory. -/
def defaults (home : String) : Config where
  binary := .string "rg"
  timeout := .real 10
  maxOutput := .int (10 * 1024 * 1024)
  maxFileSize := .string "1M"
  workers := .int 4
  stateDirectory := .string ((Path.parse home).join (Path.parse ".symjump")).text
  stateFile := .string "state.db"
  recencyKey := .string "symjump.recencyEntries"
  lastCommandKey := .string "symjump.lastCommand"
  maxEntries := .int 1000
  recencyWeight := .real 0.7
  decay := .real 0.9
  maxAge := .real 48
  frequencyCap := .int 50
  maxScore := .real 100
  fuzzyWeight := .real 0.6
  recencyRankWeight := .real 0.4
  maxVisible := .int 20
  logLevel := .string "INFO"
  logFormat := .string "%(asctime)s - %(name)s - %(levelname)s - %(message)s"

/-- Reads a double from an environment variable. -/
def readReal (text : String) : Except VariableError Float :=
  match Decimal.readFloat? text.toList with
  | some x => .ok x
  | none => .error (.notReal text)

/-- Reads an integer from an environment variable. -/
def readInteger (text : String) : Except VariableError Int :=
  match Decimal.readInteger text.toList with
  | .number n => .ok n
  | .tooLong count => .error (.tooManyDigits count)
  | .malformed => .error (.notInteger text)

/-- The settings that the environment asks for. -/
def ofEnvironment (e : Environment) : Except VariableError Config := do
  let base := defaults e.home
  let timeout ← readReal ((e.get? "SYMJUMP_RG_TIMEOUT").getD "10")
  let workers ← readInteger ((e.get? "SYMJUMP_MAX_WORKERS").getD "4")
  let text (name : String) (fallback : Json) : Json := (e.get? name).elim fallback .string
  return { base with
    binary := text "SYMJUMP_RG" base.binary
    timeout := .real timeout
    workers := .int workers
    stateDirectory := text "SYMJUMP_STATE_DIR" base.stateDirectory
    logLevel := .string (Text.upper ((e.get? "SYMJUMP_LOG_LEVEL").getD "INFO")) }

/-- Compares two settings. -/
def compare (relation : Operand → Operand → Except ArithmeticError Bool) (a b : Json) :
    Except ConfigError Bool :=
  (relation (.ofJson a) (.ofJson b)).mapError .notANumber

/-- Whether a setting lies between two bounds, the second of which belongs to the range. -/
def isBetween (first : Operand → Operand → Except ArithmeticError Bool) (value : Json) :
    Except ConfigError Bool := do
  if ← compare first (.real 0) value then compare Operand.atMost value (.real 1)
  else return false

/-- Demands that a weight lies between zero and one. -/
def checkWeight (name : String) (value : Json) : Except ConfigError Unit := do
  if !(← isBetween Operand.atMost value) then throw (.weight name value)

/-- The first setting out of its range. -/
def validate (c : Config) : Except ConfigError Unit := do
  if ← compare Operand.atMost c.timeout (.int 0) then throw (.timeout c.timeout)
  if ← compare Operand.atMost c.maxOutput (.int 0) then throw .outputLimit
  if ← compare Operand.less c.workers (.int 1) then throw (.workers c.workers)
  if ← compare Operand.less c.maxEntries (.int 1) then throw .entries
  if ← compare Operand.less c.frequencyCap (.int 1) then throw .frequencyCap
  if !(← isBetween Operand.less c.decay) then throw (.decay c.decay)
  checkWeight "recency_weight" c.recencyWeight
  checkWeight "fuzzy_weight" c.fuzzyWeight
  checkWeight "recency_rank_weight" c.recencyRankWeight
  if ← compare Operand.less c.maxVisible (.int 1) then throw .visibleItems

/-- The settings with one of them, named as in a settings file, replaced. There is no result for an
unknown name. -/
def set? (c : Config) (name : String) (value : Json) : Option Config :=
  match name with
  | "rg_binary" => some { c with binary := value }
  | "rg_timeout_seconds" => some { c with timeout := value }
  | "rg_max_output_bytes" => some { c with maxOutput := value }
  | "rg_max_filesize" => some { c with maxFileSize := value }
  | "max_workers" => some { c with workers := value }
  | "state_dir" => some { c with stateDirectory := value }
  | "state_db_name" => some { c with stateFile := value }
  | "recency_store_key" => some { c with recencyKey := value }
  | "last_command_store_key" => some { c with lastCommandKey := value }
  | "max_recency_entries" => some { c with maxEntries := value }
  | "recency_weight" => some { c with recencyWeight := value }
  | "decay_factor" => some { c with decay := value }
  | "max_age_hours" => some { c with maxAge := value }
  | "frequency_cap" => some { c with frequencyCap := value }
  | "max_score" => some { c with maxScore := value }
  | "fuzzy_weight" => some { c with fuzzyWeight := value }
  | "recency_rank_weight" => some { c with recencyRankWeight := value }
  | "max_visible_items" => some { c with maxVisible := value }
  | "log_level" => some { c with logLevel := value }
  | "log_format" => some { c with logFormat := value }
  | _ => none

/-- The settings that the environment asks for, with those given by name in their place. Names that
belong to no setting are passed over. -/
def ofGiven (e : Environment) (given : List (String × Json)) : Except VariableError Config := do
  let base ← ofEnvironment e
  return given.foldl (fun c (name, value) => (c.set? name value).getD c) base

/-- The settings by the names that they have in a settings file. -/
def fields (c : Config) : OrderedMap String Json :=
  [("rg_binary", c.binary), ("rg_timeout_seconds", c.timeout),
    ("rg_max_output_bytes", c.maxOutput), ("rg_max_filesize", c.maxFileSize),
    ("max_workers", c.workers), ("state_dir", c.stateDirectory),
    ("state_db_name", c.stateFile), ("recency_store_key", c.recencyKey),
    ("last_command_store_key", c.lastCommandKey), ("max_recency_entries", c.maxEntries),
    ("recency_weight", c.recencyWeight), ("decay_factor", c.decay),
    ("max_age_hours", c.maxAge), ("frequency_cap", c.frequencyCap), ("max_score", c.maxScore),
    ("fuzzy_weight", c.fuzzyWeight), ("recency_rank_weight", c.recencyRankWeight),
    ("max_visible_items", c.maxVisible), ("log_level", c.logLevel),
    ("log_format", c.logFormat)]

/-- All settings as a structured value. -/
def toJson (c : Config) : Json :=
  .object c.fields

end Config

end SymbolSearch
