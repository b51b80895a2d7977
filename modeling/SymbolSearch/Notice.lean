import SymbolSearch.Error

namespace SymbolSearch

/-- What is worth a warning and does not keep an operation from going on. -/
inductive Notice
  | malformedEntries (count : Nat)
  | unexpectedMap (type : String)
  | mapNotPersisted (error : StoreError)
  | mapNotCleared (error : StoreError)
  | commandNotRemembered (error : StoreError)
  | commandNotCleared (error : StoreError)
  | malformedCommand
  | partialOutput (complaint : String)
deriving Repr, DecidableEq

/-- The wording of a warning. -/
def Notice.message : Notice → String
  | .malformedEntries count =>
      "Ignored " ++ Decimal.digits count ++ " malformed recency entr" ++
        (if count == 1 then "y" else "ies")
  | .unexpectedMap type =>
      "Stored recency map has unexpected type " ++ type ++ "; starting empty"
  | .mapNotPersisted error => "Could not persist recency map: " ++ error.message
  | .mapNotCleared error => "Could not clear persisted recency map: " ++ error.message
  | .commandNotRemembered error => "Could not remember last command: " ++ error.message
  | .commandNotCleared error => "Could not clear last command: " ++ error.message
  | .malformedCommand => "Ignoring malformed last-command record"
  | .partialOutput complaint => "ripgrep reported errors, keeping partial output: " ++ complaint

end SymbolSearch
