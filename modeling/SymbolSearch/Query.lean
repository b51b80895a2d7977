import SymbolSearch.Argument
import SymbolSearch.Similarity.Fuzzy

namespace SymbolSearch.Query

open SymbolSearch.Similarity

/-- Whether a part of a query is upper case: it has upper-case letters, and no others. -/
def isUpperPart (s : String) : Bool :=
  let cs := s.toList
  cs.any Text.isUpper && cs.all fun c => Text.isUpper c || !Text.casedRuns.any (·.contains c.toNat)

/-- Whether one of the parts of a query is upper case. A part before the first such that is no text
has no case. -/
def hasUpperPart : List Json → Except Failure Bool
  | [] => .ok false
  | .string s :: rest => if isUpperPart s then .ok true else hasUpperPart rest
  | value :: _ => .error (.noMember value.typeName "isupper")

/-- The character that a part of a query stands for. -/
def character? : Json → Option Char
  | .string s =>
      match s.toList with
      | [c] => some c
      | _ => none
  | _ => none

/-- What to look for when a list of parts is asked for. Without an upper-case part they would have
to be put in lower case, which is not done to a list; parts that are no characters are found
nowhere. -/
def needleOfParts (type : String) (parts : List Json) : Except Failure (Option Needle) := do
  if ← hasUpperPart parts then
    return (parts.mapM character?).map fun cs => ⟨cs, true, true⟩
  else throw (.noMember type "lower")

/-- What a query of any type asks for, when it counts as given. Nothing matches a query without a
needle. -/
def needle (query : Json) : Except Failure (Option Needle) :=
  match query with
  | .string s => .ok (some (.ofText s.toList))
  | .array items => needleOfParts query.typeName items
  | .object fields => needleOfParts query.typeName (fields.map fun field => .string field.1)
  | _ => .error (.wrongType ("'" ++ query.typeName ++ "' object is not iterable"))

/-- The candidates that match a query, best first. A query that does not count as given matches
nothing. -/
def findAll {α : Type} (text : α → String) (candidates : List α) (query : Json) :
    Except Failure (List (Hit α)) := do
  if !query.isGiven then return []
  return (← needle query).elim [] fun n => n.findAll text candidates

end SymbolSearch.Query
