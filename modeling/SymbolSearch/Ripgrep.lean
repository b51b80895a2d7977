import SymbolSearch.Config
import SymbolSearch.Text.Blank
import SymbolSearch.Text.Lines
import SymbolSearch.Text.Utf8

namespace SymbolSearch

/-- One call of the search tool: what to look for, in which files, and where. -/
structure Invocation where
  arguments : List Json
  patterns : List String
  globs : List String
  directory : String

/-- How a call of the search tool ends. -/
inductive Outcome
  | finished (output errors : List UInt8) (status : Int)
  | missing
  | timedOut
  | notStarted (reason : String)
deriving Repr, DecidableEq

/-- The search tool as seen from outside. -/
abbrev SearchTool := Invocation → Outcome

/-- Why a call gives no lines. -/
inductive ExtractionError
  | binaryMissing (binary : Json)
  | timedOut (limit : Json)
  | notStarted (reason : String)
  | outputTooLong (limit : Json)
  | failed (status : Int) (errors : String)

/-- The wording of an error. -/
def ExtractionError.message : ExtractionError → String
  | .binaryMissing binary => "ripgrep binary not found: " ++ binary.display
  | .timedOut limit => "ripgrep timed out after " ++ limit.display ++ "s"
  | .notStarted reason => "ripgrep could not be started: " ++ reason
  | .outputTooLong limit => "ripgrep output exceeded " ++ limit.display ++ " bytes"
  | .failed status errors =>
      "ripgrep exited with status " ++ Decimal.integerText status ++ ": " ++ errors

/-- Why a call comes to nothing: it fails, or its output cannot be measured by the limit that was
set. -/
inductive CallError
  | extraction (error : ExtractionError)
  | limit (error : ArithmeticError)

/-- How the search tool is called. -/
structure Ripgrep where
  binary : Json
  timeout : Json
  maxOutput : Json
  maxFileSize : Json

/-- The lines of a call. Lines that came with an error status are accompanied by the tool's own
message. -/
structure Report where
  lines : List String
  complaint : Option String
deriving Repr, DecidableEq

namespace Ripgrep

/-- The way of calling that the settings ask for. -/
def ofConfig (c : Config) : Ripgrep :=
  ⟨c.binary, c.timeout, c.maxOutput, c.maxFileSize⟩

/-- The command line of a call, with the binary as it was set. -/
def arguments (rg : Ripgrep) (patterns globs : List Json) : List Json :=
  rg.binary ::
    ["--with-filename", "--line-number", "--column", "--no-heading", "--color", "never",
      "--smart-case", "--max-filesize=" ++ rg.maxFileSize.display].map .string ++
    globs.flatMap (fun glob => [.string "-g", glob]) ++
    patterns.flatMap (fun pattern => [.string "-e", pattern]) ++ [.string "."]

/-- A call for the given patterns. -/
def invocation (rg : Ripgrep) (patterns globs : List String) (directory : String) : Invocation :=
  ⟨rg.arguments (patterns.map .string) (globs.map .string), patterns, globs, directory⟩

/-- The lines of an output that fits its limit. Statuses zero and one are regular; with any other
the lines found so far are kept, and it is an error when there are none. -/
def reportOf (output errors : List UInt8) (status : Int) : Except ExtractionError Report :=
  let lines := Text.lines (Text.Utf8.decode output)
  let kept := (lines.filter fun line => !line.isEmpty).map String.ofList
  if status == 0 || status == 1 then .ok ⟨kept, none⟩
  else
    let complaint := String.ofList (Text.trimmed (Text.Utf8.decode errors))
    if lines.isEmpty then .error (.failed status complaint) else .ok ⟨kept, some complaint⟩

/-- Whether an output is longer than the settings allow. -/
def isTooLong (rg : Ripgrep) (output : List UInt8) : Except ArithmeticError Bool :=
  Operand.greater (.ofJson (.int output.length)) (.ofJson rg.maxOutput)

/-- What a finished call has to say. -/
def interpret (rg : Ripgrep) (output errors : List UInt8) (status : Int) :
    Except CallError Report :=
  match rg.isTooLong output with
  | .error error => .error (.limit error)
  | .ok true => .error (.extraction (.outputTooLong rg.maxOutput))
  | .ok false => (reportOf output errors status).mapError .extraction

/-- Calls the tool. -/
def run (rg : Ripgrep) (tool : SearchTool) (call : Invocation) : Except CallError Report :=
  match tool call with
  | .finished output errors status => rg.interpret output errors status
  | .missing => .error (.extraction (.binaryMissing rg.binary))
  | .timedOut => .error (.extraction (.timedOut rg.timeout))
  | .notStarted reason => .error (.extraction (.notStarted reason))

/-- Calls the tool; a call that fails finds nothing. -/
def search (rg : Ripgrep) (tool : SearchTool) (call : Invocation) :
    Except ArithmeticError (List String) :=
  match rg.run tool call with
  | .ok report => .ok report.lines
  | .error (.extraction _) => .ok []
  | .error (.limit error) => .error error

end Ripgrep

end SymbolSearch
