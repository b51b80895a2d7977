import SymbolSearch.Pattern.CharSet

namespace SymbolSearch.Pattern

/-- Conditions on a place in a text. The two ends of a line may be those of each line, or only those
of the whole text; a boundary of words may be limited to ASCII. -/
inductive Anchor
  | lineStart (each : Bool)
  | lineEnd (each : Bool)
  | textStart
  | textEnd
  | boundary (narrow negated : Bool)
deriving Repr, DecidableEq

/-- How a loop chooses the number of its rounds: as many as possible, as few as possible, or as many
as possible without giving any part of them back. -/
inductive Mode
  | greedy
  | frugal
  | possessive
deriving Repr, DecidableEq

/-- A pattern tree. The right side of a choice that is itself a choice goes on with the same choice;
a scope sets its body off from what surrounds it without any other effect. The body of a `given`
depends on whether a group has matched. -/
inductive Node
  | empty
  | one (set : CharSet)
  | anchor (anchor : Anchor)
  | seq (first second : Node)
  | alt (left right : Node)
  | group (index : Nat) (body : Node)
  | scope (body : Node)
  | loop (least : Nat) (most : Option Nat) (mode : Mode) (body : Node)
  | again (index : Nat) (folding : Folding)
  | given (index : Nat) (yes no : Node)
  | atomic (body : Node)
  | ahead (positive : Bool) (body : Node)
  | behind (positive : Bool) (width : Nat) (body : Node)
deriving Repr, DecidableEq

/-- The least and the greatest length of a match; the second is `none` when there is no greatest. -/
abbrev Widths := Nat × Option Nat

namespace Node

/-- The lengths of the matches of a tree, where `groups` are the lengths of the groups it may refer
to. -/
def widths (groups : List (Nat × Widths)) : Node → Widths
  | .empty | .anchor _ | .ahead .. | .behind .. => (0, some 0)
  | .one _ => (1, some 1)
  | .seq a b =>
      let (low, high) := a.widths groups
      let (low', high') := b.widths groups
      (low + low', do return (← high) + (← high'))
  | .alt a b | .given _ a b =>
      let (low, high) := a.widths groups
      let (low', high') := b.widths groups
      (min low low', do return max (← high) (← high'))
  | .group _ body | .scope body | .atomic body => body.widths groups
  | .loop least most _ body =>
      let (low, high) := body.widths groups
      (low * least,
        match most, high with
        | some 0, _ => some 0
        | some n, some h => some (h * n)
        | none, some 0 => some 0
        | _, _ => none)
  | .again index _ => (groups.lookup index).getD (0, none)

/-- The set of a tree that matches a single character, whatever scopes surround it. -/
def set? : Node → Option CharSet
  | .one set => some set
  | .scope body => body.set?
  | _ => none

/-- The set that a tree begins with: `none` when the tree does nothing at all, and `some none` when
it begins with anything but a single character. -/
def opening : Node → Option (Option CharSet)
  | .empty => none
  | .one set => some (some set)
  | .seq a b => a.opening.orElse fun _ => b.opening
  | .scope body => body.opening
  | _ => some none

/-- The trees of a list, one after the other. -/
def sequence : List Node → Node
  | [] => .empty
  | [node] => node
  | node :: rest => .seq node (sequence rest)

/-- The last branch of a choice, set off if it is a choice itself. -/
def lastBranch : Node → Node
  | .alt a b => .scope (.alt a b)
  | node => node

/-- A choice between branches, of which an earlier one is tried before a later one. -/
def choice : List Node → Node
  | [] => .empty
  | [node] => lastBranch node
  | node :: rest => .alt node (choice rest)

end Node

end SymbolSearch.Pattern

namespace SymbolSearch

/-- A compiled pattern: its tree, the number of its groups, the least length of a match, and whether
it disregards case. -/
structure Pattern where
  root : Pattern.Node
  groups : Nat
  least : Nat
  ignoreCase : Bool
deriving Repr, DecidableEq

end SymbolSearch
