import SymbolSearch.Decimal.Binary
import SymbolSearch.Text.Blank
import SymbolSearch.Text.Digit

namespace SymbolSearch.Decimal

open SymbolSearch.Text

/-- The double nearest to `digits * 10 ^ power`, infinite when it is too large. Powers far outside
the range of doubles are settled without computing them. -/
def ofDecimal (negative : Bool) (digits : Nat) (power : Int) : Float :=
  let size := Int.ofNat (Nat.toDigits 10 digits).length + power
  if digits == 0 || size < -400 then floatOfBits negative 0
  else if 400 < size then infinity negative
  else
    let found :=
      if 0 ≤ power then floatOfFraction? negative (digits * powerOfTen power.toNat) 1
      else floatOfFraction? negative digits (powerOfTen (-power).toNat)
    found.getD (infinity negative)

/-- Blanks that may surround a written number: all but the information separators. -/
def isNumberBlank (c : Char) : Bool :=
  isBlank c && !(0x1c ≤ c.toNat && c.toNat ≤ 0x1f)

/-- A text without the blanks around it. -/
def trimNumber (cs : List Char) : List Char :=
  ((cs.dropWhile isNumberBlank).reverse.dropWhile isNumberBlank).reverse

/-- An optional sign; `true` for a minus. -/
def takeSign : List Char → Bool × List Char
  | '-' :: rest => (true, rest)
  | '+' :: rest => (false, rest)
  | cs => (false, cs)

/-- The digits at the front of a text, read on from a digit. A single underscore may stand between
two digits. -/
def takeDigitsFrom (value count : Nat) : List Char → Nat × Nat × List Char
  | [] => (value, count, [])
  | '_' :: c :: rest =>
      match digitValue? c with
      | some d => takeDigitsFrom (value * 10 + d) (count + 1) rest
      | none => (value, count, '_' :: c :: rest)
  | c :: rest =>
      match digitValue? c with
      | some d => takeDigitsFrom (value * 10 + d) (count + 1) rest
      | none => (value, count, c :: rest)

/-- The number written by the digits at the front of a text, how many they are, and what follows. -/
def takeDigits : List Char → Nat × Nat × List Char
  | [] => (0, 0, [])
  | c :: rest =>
      match digitValue? c with
      | some d => takeDigitsFrom d 1 rest
      | none => (0, 0, c :: rest)

/-- The largest number of digits of an integer that is read or written. -/
def maxDigits : Nat := 4300

/-- What comes of reading an integer: a number, more digits than are allowed, or no number. -/
inductive IntReading
  | number (n : Int)
  | tooLong (digits : Nat)
  | malformed
deriving Repr, DecidableEq

/-- Reads an integer: blanks around it, a sign, and digits of any script with single underscores
between them. -/
def readInteger (cs : List Char) : IntReading :=
  let (negative, rest) := takeSign (trimNumber cs)
  match takeDigits rest with
  | (value, count, rest) =>
      if maxDigits < count then .tooLong count
      else if count == 0 || !rest.isEmpty then .malformed
      else .number (if negative then -Int.ofNat value else Int.ofNat value)

/-- The integer that a text reads as, if it does. -/
def readInt? (cs : List Char) : Option Int :=
  match readInteger cs with
  | .number n => some n
  | _ => none

/-- An exponent: a mark, an optional sign and digits. Nothing at all is an exponent of zero. -/
def readExponent? : List Char → Option Int
  | [] => some 0
  | c :: rest =>
      if c == 'e' || c == 'E' then
        let (negative, rest) := takeSign rest
        match takeDigits rest with
        | (value, count, []) =>
            if count == 0 then none
            else some (if negative then -Int.ofNat value else Int.ofNat value)
        | _ => none
      else none

/-- The part of a number after its whole digits: a point with further digits, then an exponent. -/
def readFraction? (negative : Bool) (whole wholeCount : Nat) (rest : List Char) : Option Float :=
  let (fraction, count, rest) :=
    match rest with
    | '.' :: rest => takeDigits rest
    | _ => (0, 0, rest)
  if wholeCount + count == 0 then none
  else
    (readExponent? rest).map fun e =>
      ofDecimal negative (whole * powerOfTen count + fraction) (e - Int.ofNat count)

/-- Reads a floating-point number: the words for infinity and for no number in any case, or a
decimal with an optional point and exponent. -/
def readFloat? (cs : List Char) : Option Float :=
  let (negative, rest) := takeSign (trimNumber cs)
  let word := String.ofList (rest.map Char.toLower)
  if word == "inf" || word == "infinity" then some (infinity negative)
  else if word == "nan" then some notANumber
  else
    let (whole, count, rest) := takeDigits rest
    readFraction? negative whole count rest

end SymbolSearch.Decimal
