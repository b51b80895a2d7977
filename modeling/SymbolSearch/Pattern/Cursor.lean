import SymbolSearch.Pattern.Basic

namespace SymbolSearch.Pattern

open SymbolSearch.Text

/-- Where the groups of a pattern were seen to start and to end: two entries for each group, in the
order of their numbers. -/
abbrev Marks := List (Option Nat)

/-- The place of a match of a group or of a whole pattern. -/
structure Span where
  start : Nat
  stop : Nat
deriving Repr, DecidableEq

namespace Marks

/-- Sets one entry; entries that were missing before it stay open. -/
def put (marks : Marks) (entry position : Nat) : Marks :=
  if entry < marks.length then marks.set entry (some position)
  else marks ++ List.replicate (entry - marks.length) none ++ [some position]

/-- The two entries of a group, when both are set. They may be the wrong way round, where a group
has been entered again and not yet left. -/
def bounds? (marks : Marks) (group : Nat) : Option Span :=
  match marks[2 * (group - 1)]?, marks[2 * (group - 1) + 1]? with
  | some (some start), some (some stop) => some ⟨start, stop⟩
  | _, _ => none

/-- What a group has matched. -/
def span? (marks : Marks) (group : Nat) : Option Span :=
  (marks.bounds? group).filter fun span => decide (span.start ≤ span.stop)

end Marks

/-- A place in a text: the characters before it, nearest first, and those after it. On the way to
it, `noted` is the position that was noted last and `marks` tells what the groups have matched. -/
structure Cursor where
  before : List Char
  after : List Char
  position : Nat
  noted : Nat
  marks : Marks
deriving Repr

namespace Cursor

/-- The cursor at the beginning of a text. -/
def start (text : List Char) : Cursor :=
  ⟨[], text, 0, 0, []⟩

/-- Notes the place of the cursor. -/
def note (c : Cursor) : Cursor :=
  { c with noted := c.position }

/-- Sets an entry of the marks to the place of the cursor. -/
def mark (c : Cursor) (entry : Nat) : Cursor :=
  { c with marks := c.marks.put entry c.position }

/-- The cursor behind the next character, when that satisfies a condition. -/
def step? (p : Char → Bool) (c : Cursor) : Option Cursor :=
  match c.after with
  | [] => none
  | x :: rest =>
      if p x then some { c with before := x :: c.before, after := rest, position := c.position + 1 }
      else none

/-- The cursor moved back by a number of characters, when there are so many. -/
def back? : Nat → Cursor → Option Cursor
  | 0, c => some c
  | n + 1, c =>
      match c.before with
      | [] => none
      | x :: rest =>
          back? n { c with before := rest, after := x :: c.after, position := c.position - 1 }

/-- The whole text. -/
def text (c : Cursor) : List Char :=
  c.before.reverse ++ c.after

/-- The cursor at another position of the text. -/
def seek (c : Cursor) (position : Nat) : Cursor :=
  let text := c.text
  { c with
    before := (text.take position).reverse
    after := text.drop position
    position := position
    noted := position }

/-- The characters of a span of the text. -/
def slice (c : Cursor) (span : Span) : List Char :=
  (c.text.drop span.start).take (span.stop - span.start)

/-- The cursors behind as many characters of a set as there are, up to a limit, farthest first. -/
def reach (set : CharSet) (limit : Nat) (c : Cursor) (passed : List Cursor) : List Cursor :=
  match limit with
  | 0 => c :: passed
  | limit + 1 =>
      match c.step? set.contains with
      | some d => reach set limit d (c :: passed)
      | none => c :: passed

end Cursor

/-- Whether the place is between a word character and another one, or an end of the text. -/
def isBoundary (narrow : Bool) (c : Cursor) : Bool :=
  let word (x : Char) := Category.word.contains narrow x
  (c.before.head?.any word) != (c.after.head?.any word)

/-- Whether a place meets a condition. The end of a text is also before a line feed that is its last
character. An empty text has neither boundaries nor places that are none. -/
def Anchor.holds (c : Cursor) : Anchor → Bool
  | .lineStart each => c.before.isEmpty || (each && c.before.head? == some '\n')
  | .lineEnd each =>
      c.after.isEmpty || c.after == ['\n'] || (each && c.after.head? == some '\n')
  | .textStart => c.before.isEmpty
  | .textEnd => c.after.isEmpty
  | .boundary narrow negated =>
      !(c.before.isEmpty && c.after.isEmpty) && isBoundary narrow c != negated

/-- Moves over given characters, when they are the next ones. -/
def stepOver? (folding : Folding) : List Char → Cursor → Option Cursor
  | [], c => some c
  | x :: xs, c =>
      match c.step? fun y => folding.lower x.toNat == folding.lower y.toNat with
      | some d => stepOver? folding xs d
      | none => none

end SymbolSearch.Pattern
