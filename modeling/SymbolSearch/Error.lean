import SymbolSearch.Config
import SymbolSearch.Json.Limits
import SymbolSearch.Json.Printer
import SymbolSearch.Pattern.Error
import SymbolSearch.Ripgrep

namespace SymbolSearch

/-- Why a value could not be stored, or not be found again. -/
inductive StoreError
  | notSerializable (key : String) (problem : Json.Obstacle)
  | unusable
  | unwritable
  | uncommitted
  | diskFull
  | notImplemented
  | unhashable (type : String)
  | unreadable (excess : Json.ReadError)
deriving Repr, DecidableEq

/-- The wording of an error. -/
def StoreError.message : StoreError → String
  | .notSerializable key problem =>
      "Value for '" ++ key ++ "' is not JSON-serializable: " ++ problem.message
  | .unusable => "State database is unusable"
  | .unwritable | .uncommitted => "Could not write to the state database"
  | .diskFull => "disk full"
  | .notImplemented => ""
  | .unhashable type => "unhashable type: '" ++ type ++ "'"
  | .unreadable (.tooManyDigits count) => (VariableError.tooManyDigits count).message
  | .unreadable _ => "maximum recursion depth exceeded"

/-- A session used against its life cycle. -/
inductive SessionError
  | alreadyOpened (key : String)
  | closed (key : String)
deriving Repr, DecidableEq

/-- The wording of an error. -/
def SessionError.message : SessionError → String
  | .alreadyOpened key => "Session for " ++ key ++ " was already opened"
  | .closed key => "Session for " ++ key ++ " is closed"

/-- Everything that can keep an operation from giving an answer. -/
inductive Failure
  | config (error : ConfigError)
  | variable (error : VariableError)
  | noWorkspace (path : String)
  | extraction (error : ExtractionError)
  | store (error : StoreError)
  | session (error : SessionError)
  | arithmetic (error : ArithmeticError)
  | pattern (error : Pattern.PatternError)
  | path (error : PathError)
  | json (problem : Json.Obstacle)
  | noWorkers
  | missingTerm
  | scan (reason : String)
  | unequalPair (index length : Nat)
  | wrongType (problem : String)
  | noMember (type name : String)

/-- The wording of a failure. -/
def Failure.message : Failure → String
  | .config error => error.message
  | .variable error => error.message
  | .noWorkspace folder =>
      "No workspace folder at " ++ folder ++ ". Pass an existing directory as the search root."
  | .extraction error => error.message
  | .store error => error.message
  | .session error => error.message
  | .arithmetic error => error.message
  | .pattern _ => "invalid pattern"
  | .path error => error.message
  | .json problem => problem.message
  | .noWorkers => "max_workers must be greater than 0"
  | .missingTerm => "Missing required argument: term"
  | .scan reason => reason
  | .unequalPair index length =>
      "dictionary update sequence element #" ++ Decimal.digits index ++ " has length " ++
        Decimal.digits length ++ "; 2 is required"
  | .wrongType problem => problem
  | .noMember type name =>
      "'" ++ type ++ "' object has no attribute '" ++ name ++ "'"

/-- A failed call as a failure. -/
def CallError.failure : CallError → Failure
  | .extraction error => .extraction error
  | .limit error => .arithmetic error

end SymbolSearch
