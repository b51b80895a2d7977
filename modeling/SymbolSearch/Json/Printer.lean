import SymbolSearch.Decimal.Reading
import SymbolSearch.Decimal.Shortest
import SymbolSearch.Json.Basic

namespace SymbolSearch.Json

/-- The lower-case hexadecimal digit of a number below sixteen. -/
def hexDigit (n : Nat) : Char :=
  Nat.digitChar n

/-- A code unit of sixteen bits written as an escape. -/
def escapeUnit (n : Nat) : List Char :=
  ['\\', 'u', hexDigit (n / 4096 % 16), hexDigit (n / 256 % 16), hexDigit (n / 16 % 16),
    hexDigit (n % 16)]

/-- Whether a character inside a string stands for itself: printable ASCII but the quote and the
backslash. -/
def isPlain (c : Char) : Bool :=
  ' ' ≤ c && c ≤ '~' && c != '"' && c != '\\'

/-- A character that does not stand for itself. It is escaped by a letter when there is one, and by
its code units otherwise, of which there are two beyond the first sixteen bits. -/
def escape (c : Char) : List Char :=
  if c == '"' then ['\\', '"']
  else if c == '\\' then ['\\', '\\']
  else if c == '\n' then ['\\', 'n']
  else if c == '\r' then ['\\', 'r']
  else if c == '\t' then ['\\', 't']
  else if c.toNat == 8 then ['\\', 'b']
  else if c.toNat == 12 then ['\\', 'f']
  else if c.toNat < 0x10000 then escapeUnit c.toNat
  else
    escapeUnit (0xd800 + (c.toNat - 0x10000) / 0x400) ++
      escapeUnit (0xdc00 + (c.toNat - 0x10000) % 0x400)

/-- The characters of a string as they are written, before what follows. -/
def writeChars : List Char → List Char → List Char
  | [], rest => rest
  | c :: cs, rest =>
      if isPlain c then c :: writeChars cs rest else escape c ++ writeChars cs rest

/-- A string in quotes, before what follows. -/
def quote (s : String) (rest : List Char) : List Char :=
  '"' :: writeChars s.toList ('"' :: rest)

/-- The text of a double. The words for what is not finite are an extension of the format. -/
def realText (x : Float) : String :=
  match Decimal.Binary.ofFloat x with
  | .nan => "NaN"
  | .infinite negative => if negative then "-Infinity" else "Infinity"
  | .finite .. => Decimal.shortestText x

/-- How the parts of an array or object are set apart: what follows the opening bracket, what
stands between two parts and what precedes the closing bracket, each at a level of nesting. -/
structure Layout where
  opening : Nat → List Char
  separator : Nat → List Char
  closing : Nat → List Char

/-- Everything on one line. -/
def Layout.compact : Layout where
  opening _ := []
  separator _ := [',', ' ']
  closing _ := []

/-- Every part on a line of its own, indented by its level. -/
def Layout.indented (width : Nat) : Layout where
  opening level := '\n' :: List.replicate (width * (level + 1)) ' '
  separator level := ',' :: '\n' :: List.replicate (width * (level + 1)) ' '
  closing level := '\n' :: List.replicate (width * level) ' '

mutual

/-- The text of a value at a level of nesting, before what follows. A foreign value contributes
nothing. -/
def write (layout : Layout) (level : Nat) : Json → List Char → List Char
  | .null, rest => 'n' :: 'u' :: 'l' :: 'l' :: rest
  | .bool true, rest => 't' :: 'r' :: 'u' :: 'e' :: rest
  | .bool false, rest => 'f' :: 'a' :: 'l' :: 's' :: 'e' :: rest
  | .int n, rest => (Decimal.integerText n).toList ++ rest
  | .real x, rest => (realText x).toList ++ rest
  | .string s, rest => quote s rest
  | .array [], rest => '[' :: ']' :: rest
  | .array (v :: vs), rest =>
      '[' :: (layout.opening level ++
        write layout (level + 1) v
          (writeItems layout level vs (layout.closing level ++ ']' :: rest)))
  | .object [], rest => '\x7b' :: '\x7d' :: rest
  | .object ((k, v) :: fields), rest =>
      '\x7b' :: (layout.opening level ++
        quote k (':' :: ' ' ::
          write layout (level + 1) v
            (writeFields layout level fields (layout.closing level ++ '\x7d' :: rest))))
  | .foreign, rest => rest

/-- The items of an array after the first. -/
def writeItems (layout : Layout) (level : Nat) : List Json → List Char → List Char
  | [], rest => rest
  | v :: vs, rest =>
      layout.separator level ++ write layout (level + 1) v (writeItems layout level vs rest)

/-- The fields of an object after the first. -/
def writeFields (layout : Layout) (level : Nat) : List (String × Json) → List Char → List Char
  | [], rest => rest
  | (k, v) :: fields, rest =>
      layout.separator level ++
        quote k (':' :: ' ' :: write layout (level + 1) v (writeFields layout level fields rest))

end

/-- Why a value has no text, or none under its key. -/
inductive Obstacle
  | foreign
  | notFinite (number : String)
  | tooManyDigits
  | unhashable (type : String)
deriving Repr, DecidableEq

/-- The wording of an obstacle. -/
def Obstacle.message : Obstacle → String
  | .foreign => "Object of type object is not JSON serializable"
  | .notFinite number => "Out of range float values are not JSON compliant: " ++ number
  | .tooManyDigits =>
      "Exceeds the limit (" ++ Decimal.digits Decimal.maxDigits ++
        " digits) for integer string conversion; use sys.set_int_max_str_digits() to increase " ++
        "the limit"
  | .unhashable type => "unhashable type: '" ++ type ++ "'"

mutual

/-- The first part of a value that cannot be written: an integer with more digits than are allowed,
or something foreign. Doubles that are not finite count only in the strict form of the format. -/
def obstacle? (strict : Bool) : Json → Option Obstacle
  | .foreign => some .foreign
  | .int n => if Decimal.maxDigits < Decimal.length n.natAbs then some .tooManyDigits else none
  | .real x =>
      if strict && !Decimal.isFinite x then some (.notFinite (Decimal.shortestText x)) else none
  | .array items => obstacleInItems? strict items
  | .object fields => obstacleInFields? strict fields
  | _ => none

/-- The first obstacle in a list of values. -/
def obstacleInItems? (strict : Bool) : List Json → Option Obstacle
  | [] => none
  | v :: vs => (obstacle? strict v).or (obstacleInItems? strict vs)

/-- The first obstacle in a list of fields. -/
def obstacleInFields? (strict : Bool) : List (String × Json) → Option Obstacle
  | [] => none
  | (_, v) :: rest => (obstacle? strict v).or (obstacleInFields? strict rest)

end

/-- The text of a value, unless some part of it has none. -/
def render (strict : Bool) (layout : Layout) (v : Json) : Except Obstacle String :=
  match obstacle? strict v with
  | some problem => .error problem
  | none => .ok (String.ofList (write layout 0 v []))

/-- The text of a value on one line, with words for doubles that are not finite. -/
def text? (v : Json) : Except Obstacle String :=
  render false Layout.compact v

/-- The text on one line of a value without foreign parts. -/
def line (v : Json) : String :=
  String.ofList (write Layout.compact 0 v [])

/-- The indented text of a value without foreign parts. -/
def page (v : Json) : String :=
  String.ofList (write (Layout.indented 2) 0 v [])

end SymbolSearch.Json
