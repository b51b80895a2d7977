import SymbolSearch.Config
import SymbolSearch.Text.Digit

namespace SymbolSearch

/-- A line of the search tool's output: where something was found, and the text of that line. -/
structure Record where
  path : String
  line : Nat
  column : Nat
  text : String
deriving Repr, DecidableEq

namespace Record

/-- The parts of a line before its numbers are read. -/
structure Parts where
  path : List Char
  line : List Char
  column : List Char
  text : List Char
deriving Repr, DecidableEq

/-- Digits, the colon after them, and the rest. -/
def takeNumber? (cs : List Char) : Option (List Char × List Char) :=
  let digits := cs.takeWhile Text.isDecimal
  match cs.drop digits.length with
  | ':' :: rest => if digits.isEmpty then none else some (digits, rest)
  | _ => none

/-- A text up to the end, where a single line feed is dropped. -/
def takeText? (cs : List Char) : Option (List Char) :=
  let text := cs.takeWhile (· != '\n')
  match cs.drop text.length with
  | [] | ['\n'] => some text
  | _ => none

/-- What follows the path: line, column and text, each after a colon. -/
def takePlace? (cs : List Char) : Option (List Char × List Char × List Char) := do
  let (line, rest) ← takeNumber? cs
  let (column, rest) ← takeNumber? rest
  return (line, column, ← takeText? rest)

/-- Extends a path, given last character first, until a place follows. -/
def splitFrom (path : List Char) : List Char → Option Parts
  | [] => none
  | c :: rest =>
      let found := if c == ':' && !path.isEmpty then takePlace? rest else none
      match found with
      | some (line, column, text) => some ⟨path.reverse, line, column, text⟩
      | none => if c == '\n' then none else splitFrom (c :: path) rest

/-- Divides a line of the form path, line, column and text with colons between them. The path is the
shortest possible one and not empty; the text may hold colons. -/
def split? (s : String) : Option Parts :=
  splitFrom [] s.toList

/-- The record with the given parts. -/
def Parts.record? (p : Parts) : Option Record := do
  let line ← Text.naturalOfDigits? p.line
  let column ← Text.naturalOfDigits? p.column
  return ⟨String.ofList p.path, line, column, String.ofList p.text⟩

/-- The record that a line holds. -/
def parse? (s : String) : Option Record :=
  (split? s).bind Parts.record?

/-- Reads the record that a line holds. Numbers with too many digits are refused. -/
def read (s : String) : Except VariableError (Option Record) :=
  match split? s with
  | none => .ok none
  | some parts =>
      match [parts.line, parts.column].find? fun digits => Decimal.maxDigits < digits.length with
      | some digits => .error (.tooManyDigits digits.length)
      | none => .ok parts.record?

/-- A path without the mark of the current directory in front. -/
def normalizePath (path : String) : String :=
  match path.toList with
  | '.' :: '/' :: rest | '.' :: '\\' :: rest => String.ofList rest
  | _ => path

end Record

end SymbolSearch
