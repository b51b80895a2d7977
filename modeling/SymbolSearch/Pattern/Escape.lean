import SymbolSearch.Pattern.Basic
import SymbolSearch.Pattern.Error
import SymbolSearch.Pattern.Flag
import SymbolSearch.Text.CharName.Lookup
import SymbolSearch.Text.Hex

namespace SymbolSearch.Pattern

open SymbolSearch.Text

/-- The value of an octal digit. -/
def octalDigit? (c : Char) : Option Nat :=
  if '0' ≤ c && c ≤ '7' then some (c.toNat - 48) else none

/-- A code point of exactly `count` hexadecimal digits. -/
def hexPoint? (count : Nat) (cs : List Char) : Option (Nat × List Char) :=
  let digits := cs.take count
  if digits.length == count then (hexNumber? digits).map fun n => (n, cs.drop count) else none

/-- Up to `count` further octal digits. -/
def octalPoint : Nat → Nat → List Char → Nat × List Char
  | 0, value, cs => (value, cs)
  | _ + 1, value, [] => (value, [])
  | count + 1, value, c :: rest =>
      match octalDigit? c with
      | some d => octalPoint count (value * 8 + d) rest
      | none => (value, c :: rest)

/-- The named classes and their complements. -/
def category? : Char → Option (Category × Bool)
  | 'd' => some (.digit, false)
  | 'D' => some (.digit, true)
  | 's' => some (.space, false)
  | 'S' => some (.space, true)
  | 'w' => some (.word, false)
  | 'W' => some (.word, true)
  | _ => none

/-- The control characters that a letter stands for after a backslash. -/
def control? : Char → Option Nat
  | 'a' => some 7
  | 'f' => some 12
  | 'n' => some 10
  | 'r' => some 13
  | 't' => some 9
  | 'v' => some 11
  | _ => none

/-- The code point of a character given by its name in braces. -/
def namedPoint? : List Char → Option (Nat × List Char)
  | '\x7b' :: rest =>
      let name := rest.takeWhile (· != '\x7d')
      match rest.drop name.length with
      | _ :: rest => (charNamed? name).map fun n => (n, rest)
      | [] => none
  | _ => none

/-- A code point written in hexadecimal after a backslash and one of the letters x, u and U, or
given by name after the letter N. -/
def codePoint? (c : Char) (rest : List Char) : Option (Nat × List Char) :=
  match c with
  | 'x' => hexPoint? 2 rest
  | 'u' => hexPoint? 4 rest
  | 'U' => (hexPoint? 8 rest).filter fun (n, _) => decide (n < 0x110000)
  | 'N' => namedPoint? rest
  | _ => none

/-- A character that stands for itself after a backslash: anything but ASCII letters and digits. -/
def isPlainEscape (c : Char) : Bool :=
  !(c.isAlpha || c.isDigit)

/-- What a backslash and a character mean inside brackets. -/
def setEscape (narrow : Bool) (c : Char) (rest : List Char) :
    Except PatternError (Member × List Char) :=
  if c == 'b' then .ok (.point 8, rest)
  else if let some n := control? c then .ok (.point n, rest)
  else if let some (category, negated) := category? c then
    .ok (.named category narrow negated, rest)
  else if let some (n, rest) := codePoint? c rest then .ok (.point n, rest)
  else if let some d := octalDigit? c then
    let (n, rest) := octalPoint 2 d rest
    if n < 256 then .ok (.point n, rest) else .error .malformed
  else if isPlainEscape c then .ok (.point c.toNat, rest)
  else .error .malformed

/-- One part of a set: a character, an escape, or the first half of a range. -/
def setAtom (narrow : Bool) : List Char → Except PatternError (Member × List Char)
  | [] => .error .malformed
  | ['\\'] => .error .malformed
  | '\\' :: c :: rest => setEscape narrow c rest
  | c :: rest => .ok (.point c.toNat, rest)

/-- The parts of a set up to the closing bracket, which is an ordinary character when it comes
first. The parts read so far are given last first; `fuel` bounds their number. -/
def setBody (narrow : Bool) :
    Nat → List Member → List Char → Except PatternError (List Member × List Char)
  | 0, _, _ => .error .malformed
  | fuel + 1, found, cs =>
      match cs, found with
      | ']' :: rest, _ :: _ => .ok (found.reverse, rest)
      | _, _ => do
          let (member, rest) ← setAtom narrow cs
          match rest with
          | '-' :: ']' :: rest => .ok ((.point 45 :: member :: found).reverse, rest)
          | '-' :: rest =>
              let (other, rest) ← setAtom narrow rest
              match member, other with
              | .point low, .point high =>
                  if high < low then .error .malformed
                  else setBody narrow fuel (.range low high :: found) rest
              | _, _ => .error .malformed
          | _ => setBody narrow fuel (member :: found) rest

/-- A set after its opening bracket. -/
def setNode (flags : Flags) (cs : List Char) : Except PatternError (Node × List Char) := do
  let (negated, cs) :=
    match cs with
    | '^' :: rest => (true, rest)
    | _ => (false, cs)
  let (members, rest) ← setBody (flags.contains .ascii) (cs.length + 1) [] cs
  return (.one (CharSet.ofMembers flags.folding negated members), rest)

end SymbolSearch.Pattern
