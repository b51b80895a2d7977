import SymbolSearch.Text.Alphanumeric
import SymbolSearch.Text.Blank
import SymbolSearch.Text.Case
import SymbolSearch.Text.Digit

namespace SymbolSearch.Pattern

open SymbolSearch.Text

/-- Which letters are taken for the same: none but equal ones, those of ASCII that differ in case,
or those of any script. -/
inductive Folding
  | exact
  | ascii
  | full
deriving Repr, DecidableEq

namespace Folding

/-- The lower-case form of a code point. -/
def lower : Folding → Nat → Nat
  | .exact, n => n
  | .ascii, n => if 65 ≤ n && n ≤ 90 then n + 32 else n
  | .full, n => lowerPoint n

/-- Whether a code point has another case. -/
def isCased : Folding → Nat → Bool
  | .exact, _ => false
  | .ascii, n => (65 ≤ n && n ≤ 90) || (97 ≤ n && n ≤ 122)
  | .full, n => Text.isCased n

/-- Whether a code point between two bounds has another case. -/
def hasCased (low high : Nat) : Folding → Bool
  | .exact => false
  | .ascii => (⟨65, 90, 1⟩ : Run).meets low high || (⟨97, 122, 1⟩ : Run).meets low high
  | .full => Text.hasCased low high

/-- The lower-case code points that are taken for the same as a lower-case one. -/
def siblings : Folding → Nat → List Nat
  | .full, n => caseClass n
  | _, n => [n]

/-- The code points with the given lower-case form. -/
def sources : Folding → Nat → List Nat
  | .exact, n => [n]
  | .ascii, n =>
      if 97 ≤ n && n ≤ 122 then [n, n - 32] else if 65 ≤ n && n ≤ 90 then [] else [n]
  | .full, n => lowerSources n

end Folding

/-- Classes of characters that have a name. -/
inductive Category
  | word
  | digit
  | space
deriving Repr, DecidableEq

/-- Whether a character belongs to a named class; a narrow class is limited to ASCII. -/
def Category.contains (narrow : Bool) (c : Char) : Category → Bool
  | .word => if narrow then c.isAlphanum || c == '_' else isWord c
  | .digit => if narrow then c.isDigit else isDecimal c
  | .space => if narrow then c == ' ' || (9 ≤ c.toNat && c.toNat ≤ 13) else isBlank c

/-- A part of a set of characters: one code point, a range of them, or a named class or its
complement. -/
inductive Member
  | point (n : Nat)
  | range (low high : Nat)
  | named (category : Category) (narrow negated : Bool)
deriving Repr, DecidableEq

/-- The last code point that sets fold in full. -/
def lastFolded : Nat := 0xffff

namespace Member

/-- Whether the case of letters makes a difference to a part. Whatever lies beyond `lastFolded` is
taken to do so. -/
def isCased (folding : Folding) : Member → Bool
  | .point n => folding.isCased n || (folding != .exact && decide (lastFolded < folding.lower n))
  | .range low high =>
      folding.hasCased low high || (folding != .exact && decide (lastFolded < high))
  | .named .. => false

/-- Whether a part contains a lower-case code point. Beyond `lastFolded` a single code point is met
only by itself, and a range also by what it contains in upper case. -/
def contains (folding : Folding) (x : Nat) : Member → Bool
  | .point n =>
      let l := folding.lower n
      if l ≤ lastFolded then (folding.siblings l).contains x else x == n
  | .range low high =>
      let inside (n : Nat) := decide (low ≤ n) && decide (n ≤ high)
      match folding with
      | .exact => inside x
      | _ =>
          ((folding.siblings x).any fun form =>
              (folding.sources form).any fun n => decide (n ≤ lastFolded) && inside n) ||
            (decide (lastFolded < high) && (inside x || inside (upperPoint x)))
  | .named category narrow negated => category.contains narrow (Char.ofNat x) != negated

end Member

/-- A set of characters: every character, with or without the line feed; a single code point; or
several parts. The last two may stand for their complement. -/
inductive CharSet
  | any (lines : Bool)
  | point (n : Nat) (negated : Bool) (folding : Folding)
  | parts (members : List Member) (negated : Bool) (folding : Folding)
deriving Repr, DecidableEq

namespace CharSet

/-- A single code point, or all others. The case of letters is kept only where it matters. -/
def single (folding : Folding) (negated : Bool) (n : Nat) : CharSet :=
  .point n negated (if folding.isCased n then folding else .exact)

/-- The set of the given parts, or its complement. -/
def ofMembers (folding : Folding) (negated : Bool) (members : List Member) : CharSet :=
  match members.eraseDups with
  | [.point n] => single folding negated n
  | distinct =>
      .parts distinct negated (if distinct.any (·.isCased folding) then folding else .exact)

/-- Whether a set contains a character. -/
def contains (c : Char) : CharSet → Bool
  | .any lines => lines || c != '\n'
  | .point n negated folding =>
      (folding.siblings (folding.lower n)).contains (folding.lower c.toNat) != negated
  | .parts members negated folding =>
      (members.any (·.contains folding (folding.lower c.toNat))) != negated

/-- The code point of a set that holds nothing else and takes no other for it. -/
def literal? : CharSet → Option Nat
  | .point n false .exact => some n
  | _ => none

/-- Whether a choice looks at the next character before it tries a branch that begins with the set:
it does so for single code points and for sets of parts whose case does not matter. -/
def isScreened : CharSet → Bool
  | .point _ false .exact => true
  | .parts _ _ .exact => true
  | _ => false

/-- Whether the characters of a set are gone through one at a time, so that the place after the last
of them is noted: so it is when several lower-case forms are to be compared. -/
def isStepwise : CharSet → Bool
  | .any _ => false
  | .point n _ folding => decide (1 < (folding.siblings (folding.lower n)).length)
  | .parts _ _ folding => folding != .exact

/-- The parts of a set that is no complement; they can be joined with those of another. -/
def members? : CharSet → Option (List Member)
  | .point n false _ => some [.point n]
  | .parts members false _ => some members
  | _ => none

end CharSet

end SymbolSearch.Pattern
