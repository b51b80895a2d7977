import SymbolSearch.Catalog.Rule
import SymbolSearch.Pattern.Matcher

namespace SymbolSearch.Identifier

/-- A character that can begin an identifier. -/
def isStart (c : Char) : Bool :=
  c.isAlpha || c == '_'

/-- A character that can stand inside an identifier. -/
def isRest (c : Char) : Bool :=
  c.isAlphanum || c == '_'

/-- Whether a text has the form of an identifier. -/
def isForm : List Char → Bool
  | [] => false
  | c :: rest => isStart c && rest.all isRest

/-- Whether a text can be the name of a symbol: the form of an identifier, where one line feed may
follow, and not a reserved word. -/
def isCandidate (cs : List Char) : Bool :=
  let form := if cs.getLast? == some '\n' then cs.dropLast else cs
  isForm form && !reservedWords.contains (String.ofList cs)

/-- The maximal identifiers of a text from left to right. The first argument holds the characters of
the current one, last first. -/
def tokensFrom (current : List Char) : List Char → List (List Char)
  | [] => if current.isEmpty then [] else [current.reverse]
  | c :: rest =>
      if current.isEmpty then
        if isStart c then tokensFrom [c] rest else tokensFrom [] rest
      else if isRest c then tokensFrom (c :: current) rest
      else current.reverse :: tokensFrom [] rest

/-- The identifiers of a text. -/
def tokens (text : String) : List String :=
  (tokensFrom [] text.toList).map String.ofList

/-- The first identifier of a text that is not a reserved word. -/
def first? (text : String) : Option String :=
  (tokens text).find? fun token => !reservedWords.contains token

/-- A symbol found in a text, with the positions where it starts and ends. -/
structure Found where
  name : String
  start : Nat
  stop : Nat
deriving Repr, DecidableEq

/-- The group of the highest number, at most the given one, that matched a possible name. -/
def lastCandidate? (text : List Char) (m : Pattern.Match) : Nat → Option Found
  | 0 => none
  | group + 1 =>
      let found :=
        (m.span? (group + 1)).bind fun span =>
          let value := (text.drop span.start).take (span.stop - span.start)
          if isCandidate value then some ⟨String.ofList value, span.start, span.stop⟩ else none
      match found with
      | some f => some f
      | none => lastCandidate? text m group

/-- The symbol that a pattern finds in a text. -/
def extract (p : Pattern) (text : List Char) : Except Pattern.PatternError (Option Found) := do
  return (← p.search text).bind fun m => lastCandidate? text m p.groups

end SymbolSearch.Identifier
