import SymbolSearch.Json.Parser

namespace SymbolSearch.Json

/-- Why a text is not read: it is no value, its parts are nested too deeply, or one of its integers
has too many digits. -/
inductive ReadError
  | malformed
  | nestedTooDeeply
  | tooManyDigits (count : Nat)
deriving Repr, DecidableEq

/-- The depth of nesting that is still read. -/
def maxDepth : Nat := 985

/-- What follows a string after its opening quote. -/
def skipString : List Char → List Char
  | [] => []
  | '"' :: rest => rest
  | '\\' :: _ :: rest => skipString rest
  | _ :: rest => skipString rest

/-- The digits of an integer at the front of a text; none when a fraction or an exponent makes them
part of a double. -/
def integerDigits (cs : List Char) : Nat :=
  let digits := cs.takeWhile Char.isDigit
  match cs.drop digits.length with
  | c :: _ => if c == '.' || c == 'e' || c == 'E' then 0 else digits.length
  | [] => digits.length

/-- Goes through a text at a depth of nesting, and reports the first thing that is too much. The
first number bounds the steps. -/
def excessFrom : Nat → Nat → List Char → Option ReadError
  | 0, _, _ => none
  | _, _, [] => none
  | fuel + 1, depth, c :: rest =>
      if c == '"' then excessFrom fuel depth (skipString rest)
      else if c == '[' || c == '\x7b' then
        if maxDepth ≤ depth then some .nestedTooDeeply else excessFrom fuel (depth + 1) rest
      else if c == ']' || c == '\x7d' then
        match depth with
        | 0 => none
        | depth + 1 => excessFrom fuel depth rest
      else if c.isDigit then
        let count := integerDigits (c :: rest)
        if Decimal.maxDigits < count then some (.tooManyDigits count)
        else excessFrom fuel depth (rest.dropWhile Char.isDigit)
      else excessFrom fuel depth rest

/-- What is too much about a text, if anything. -/
def excess? (s : String) : Option ReadError :=
  excessFrom s.length 0 s.toList

/-- Reads the value that a text stands for, within the limits. -/
def read (s : String) : Except ReadError Json :=
  match excess? s with
  | some error => .error error
  | none =>
      match parse? s with
      | some value => .ok value
      | none => .error .malformed

end SymbolSearch.Json
