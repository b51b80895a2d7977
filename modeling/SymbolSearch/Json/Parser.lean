import SymbolSearch.Decimal.Reading
import SymbolSearch.Json.Basic

namespace SymbolSearch.Json

/-- White space between tokens. -/
def isSpace (c : Char) : Bool :=
  c == ' ' || c == '\t' || c == '\n' || c == '\r'

/-- The text after leading white space. -/
def skipSpace (cs : List Char) : List Char :=
  cs.dropWhile isSpace

/-- The value of a hexadecimal digit. -/
def hexValue? (c : Char) : Option Nat :=
  if '0' ≤ c && c ≤ '9' then some (c.toNat - 48)
  else if 'a' ≤ c && c ≤ 'f' then some (c.toNat - 87)
  else if 'A' ≤ c && c ≤ 'F' then some (c.toNat - 55)
  else none

/-- The value of four hexadecimal digits. -/
def hexUnit? (a b c d : Char) : Option Nat := do
  return (← hexValue? a) * 4096 + (← hexValue? b) * 256 + (← hexValue? c) * 16 + (← hexValue? d)

/-- The character of a code unit that is not part of a pair. Half a pair is no character of a text,
so the replacement character stands for it. -/
def charOfUnit (n : Nat) : Char :=
  if 0xd800 ≤ n && n < 0xe000 then Char.ofNat 0xfffd else Char.ofNat n

/-- The character behind a simple escape. -/
def simpleEscape? : Char → Option Char
  | '"' => some '"'
  | '\\' => some '\\'
  | '/' => some '/'
  | 'b' => some (Char.ofNat 8)
  | 'f' => some (Char.ofNat 12)
  | 'n' => some '\n'
  | 'r' => some '\r'
  | 't' => some '\t'
  | _ => none

/-- The low half of a pair written at the front of a text, and what follows it. -/
def lowHalf? : List Char → Option (Nat × List Char)
  | '\\' :: 'u' :: a :: b :: c :: d :: rest =>
      match hexUnit? a b c d with
      | some n => if 0xdc00 ≤ n && n < 0xe000 then some (n, rest) else none
      | none => none
  | _ => none

/-- One piece of a string: an ordinary character, an escape, or the closing quote (no character).
Control characters and unknown escapes are refused. -/
def stringPiece? : List Char → Option (Option Char × List Char)
  | '"' :: rest => some (none, rest)
  | '\\' :: 'u' :: a :: b :: c :: d :: rest =>
      match hexUnit? a b c d with
      | none => none
      | some n =>
          if 0xd800 ≤ n && n < 0xdc00 then
            match lowHalf? rest with
            | some (low, rest') =>
                some (some (Char.ofNat (0x10000 + (n - 0xd800) * 0x400 + (low - 0xdc00))), rest')
            | none => some (some (charOfUnit n), rest)
          else some (some (charOfUnit n), rest)
  | '\\' :: c :: rest => (simpleEscape? c).map fun d => (some d, rest)
  | c :: rest => if c.toNat < 32 || c == '\\' then none else some (some c, rest)
  | [] => none

/-- The rest of a string after its opening quote; `fuel` bounds the number of pieces. -/
def stringBody? : Nat → List Char → Option (List Char × List Char)
  | 0, _ => none
  | fuel + 1, cs =>
      match stringPiece? cs with
      | none => none
      | some (none, rest) => some ([], rest)
      | some (some c, rest) => (stringBody? fuel rest).map fun (body, rest) => (c :: body, rest)

/-- A number written by ASCII digits. -/
def digitsValue (ds : List Char) : Nat :=
  ds.foldl (fun n d => n * 10 + (d.toNat - 48)) 0

/-- The whole part of a number: a zero, or digits that do not begin with one. -/
def wholePart? : List Char → Option (List Char × List Char)
  | [] => none
  | c :: rest =>
      if c == '0' then some ([c], rest)
      else if c.isDigit then some ((c :: rest).takeWhile Char.isDigit, rest.dropWhile Char.isDigit)
      else none

/-- The digits after a point, when there is a point with digits. -/
def fractionPart (cs : List Char) : List Char × List Char :=
  match cs with
  | '.' :: rest =>
      let ds := rest.takeWhile Char.isDigit
      if ds.isEmpty then ([], cs) else (ds, rest.dropWhile Char.isDigit)
  | _ => ([], cs)

/-- The exponent of a number, when there is a mark with digits. -/
def exponentPart? (cs : List Char) : Option (Int × List Char) :=
  match cs with
  | c :: rest =>
      if c == 'e' || c == 'E' then
        let (negative, rest) := Decimal.takeSign rest
        let ds := rest.takeWhile Char.isDigit
        if ds.isEmpty then none
        else
          let n := Int.ofNat (digitsValue ds)
          some (if negative then -n else n, rest.dropWhile Char.isDigit)
      else none
  | [] => none

/-- A number without its sign. It is an integer unless it has a fraction or an exponent. -/
def magnitude? (negative : Bool) (cs : List Char) : Option (Json × List Char) :=
  (wholePart? cs).map fun (whole, rest) =>
    let (fraction, rest) := fractionPart rest
    let value := digitsValue (whole ++ fraction)
    match exponentPart? rest with
    | some (e, rest) =>
        (.real (Decimal.ofDecimal negative value (e - Int.ofNat fraction.length)), rest)
    | none =>
        if fraction.isEmpty then
          (.int (if negative then -Int.ofNat value else Int.ofNat value), rest)
        else (.real (Decimal.ofDecimal negative value (-Int.ofNat fraction.length)), rest)

/-- The words of the format, with those for doubles that are not finite. -/
def wordValues : List (List Char × Json) :=
  [("null".toList, .null), ("true".toList, .bool true), ("false".toList, .bool false),
    ("NaN".toList, .real Decimal.notANumber), ("Infinity".toList, .real (Decimal.infinity false)),
    ("-Infinity".toList, .real (Decimal.infinity true))]

/-- A word or a number at the front of a text. -/
def scalar? (cs : List Char) : Option (Json × List Char) :=
  match wordValues.find? fun entry => entry.1.isPrefixOf cs with
  | some (word, value) => some (value, cs.drop word.length)
  | none =>
      match cs with
      | '-' :: rest => magnitude? true rest
      | _ => magnitude? false cs

mutual

/-- A value at the front of a text. -/
def value? : Nat → List Char → Option (Json × List Char)
  | 0, _ => none
  | fuel + 1, cs =>
      match cs with
      | '"' :: rest =>
          (stringBody? fuel rest).map fun (body, rest) => (.string (String.ofList body), rest)
      | '[' :: rest =>
          match skipSpace rest with
          | ']' :: rest => some (.array [], rest)
          | rest => (items? fuel rest).map fun (vs, rest) => (.array vs, rest)
      | '\x7b' :: rest =>
          match skipSpace rest with
          | '\x7d' :: rest => some (.object [], rest)
          | rest =>
              (fields? fuel rest).map fun (fs, rest) => (.object (OrderedMap.ofList fs), rest)
      | _ => scalar? cs

/-- The items of an array up to its closing bracket. -/
def items? : Nat → List Char → Option (List Json × List Char)
  | 0, _ => none
  | fuel + 1, cs =>
      match value? fuel cs with
      | none => none
      | some (v, rest) =>
          match skipSpace rest with
          | ']' :: rest => some ([v], rest)
          | ',' :: rest => (items? fuel (skipSpace rest)).map fun (vs, rest) => (v :: vs, rest)
          | _ => none

/-- The fields of an object up to its closing bracket. -/
def fields? : Nat → List Char → Option (List (String × Json) × List Char)
  | 0, _ => none
  | fuel + 1, cs =>
      match cs with
      | '"' :: rest =>
          match stringBody? fuel rest with
          | none => none
          | some (name, rest) =>
              match skipSpace rest with
              | ':' :: rest =>
                  match value? fuel (skipSpace rest) with
                  | none => none
                  | some (v, rest) =>
                      match skipSpace rest with
                      | '\x7d' :: rest => some ([(String.ofList name, v)], rest)
                      | ',' :: rest =>
                          (fields? fuel (skipSpace rest)).map fun (fs, rest) =>
                            ((String.ofList name, v) :: fs, rest)
                      | _ => none
              | _ => none
      | _ => none

end

/-- The value that a text stands for. Of two fields with one name the later gives the value. -/
def parse? (s : String) : Option Json :=
  let cs := skipSpace s.toList
  match value? (2 * cs.length + 2) cs with
  | some (v, rest) => if (skipSpace rest).isEmpty then some v else none
  | none => none

end SymbolSearch.Json
