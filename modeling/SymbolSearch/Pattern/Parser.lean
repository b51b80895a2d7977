import SymbolSearch.Pattern.Token

namespace SymbolSearch.Pattern

/-- A piece of a branch: a tree, or the trees of a plain group, which can be repeated as a whole and
otherwise belong to the branch itself. -/
inductive Piece
  | node (tree : Node)
  | plain (trees : List Node)
deriving Repr

namespace Piece

/-- The trees of a piece. -/
def nodes : Piece → List Node
  | .node tree => [tree]
  | .plain trees => trees

/-- What a loop over the piece repeats. A condition on the place and a loop cannot be repeated. -/
def repeatable? : Piece → Option Node
  | .node (.anchor _) | .node (.loop ..) => none
  | .node tree => some tree
  | .plain trees => some (Node.sequence trees)

end Piece

/-- Whether two trees are known to be the same. Only trees without parts are compared. -/
def sameLeaf : Node → Node → Bool
  | .one a, .one b => a == b
  | .anchor a, .anchor b => a == b
  | .again i f, .again j g => i == j && f == g
  | _, _ => false

/-- The tree that every one of the branches begins with. -/
def sharedHead? : List (List Node) → Option Node
  | (node :: _) :: others =>
      if others.all (fun branch => branch.head?.any (sameLeaf node)) then some node else none
  | _ => none

/-- Takes out the trees that all branches begin with: those, last first, and what is left of the
branches. The number bounds how many are taken out. -/
def shareHeads : Nat → List Node → List (List Node) → List Node × List (List Node)
  | 0, shared, branches => (shared, branches)
  | fuel + 1, shared, branches =>
      match sharedHead? branches with
      | some node => shareHeads fuel (node :: shared) (branches.map List.tail)
      | none => (shared, branches)

/-- The parts of the set that a branch of a single set consists of. -/
def branchMembers? : List Node → Option (List Member)
  | [.one set] => set.members?
  | _ => none

/-- The trees of a choice between branches. What all branches begin with is matched once, and a
choice between single characters is a set. -/
def alternation (folding : Folding) : List (List Node) → List Node
  | [branch] => branch
  | branches =>
      let (shared, rest) := shareHeads (branches.head?.elim 0 List.length) [] branches
      let last :=
        match rest.mapM branchMembers? with
        | some members => Node.one (CharSet.ofMembers folding false members.flatten)
        | none => Node.choice (rest.map Node.sequence)
      (last :: shared).reverse

/-- A group under construction: the number of its capture or of the group it asks for, the number of
captures before it, the flags in force, the branches before the current one and the pieces of the
current branch, each last first. -/
structure Frame where
  bracket : Bracket
  index : Nat
  earlier : Nat
  flags : Flags
  branches : List (List Node)
  pieces : List Piece
deriving Repr

namespace Frame

/-- Adds a piece to the current branch. -/
def push (f : Frame) (piece : Piece) : Frame :=
  { f with pieces := piece :: f.pieces }

/-- The trees of the current branch. -/
def branch (f : Frame) : List Node :=
  f.pieces.reverse.flatMap Piece.nodes

/-- Starts another branch. A condition has at most two. -/
def split (f : Frame) : Except PatternError Frame :=
  match f.bracket, f.branches with
  | .given _, _ :: _ => .error .malformed
  | _, _ => .ok { f with branches := f.branch :: f.branches, pieces := [] }

/-- The trees of all branches. -/
def body (f : Frame) : List Node :=
  alternation f.flags.folding (f.branch :: f.branches).reverse

/-- Repeats the last piece. -/
def repeatLast (f : Frame) (least : Nat) (most : Option Nat) (mode : Mode) :
    Except PatternError Frame :=
  match f.pieces with
  | piece :: rest =>
      match piece.repeatable? with
      | some node => .ok { f with pieces := .node (.loop least most mode node) :: rest }
      | none => .error .malformed
  | [] => .error .malformed

/-- How deep the reader descends for a group: a condition has its branches read where it stands. -/
def depth (f : Frame) : Nat :=
  match f.bracket with
  | .given _ => 1
  | _ => 2

end Frame

/-- The depth at which a pattern is refused. -/
def depthLimit : Nat := 980

/-- The greatest distance that can be looked back. -/
def farthestBack : Nat := 4294967295

/-- The state of the construction: the innermost group, those around it, the number of captures
seen, their names, the lengths of the finished ones, and the greatest group that a condition asks
for. A pattern that is found to be `faulty` is refused once all of it has been read. -/
structure Builder where
  current : Frame
  outer : List Frame
  groups : Nat
  names : List (String × Nat)
  finished : List (Nat × Widths)
  asked : Nat
  faulty : Bool
deriving Repr

namespace Builder

/-- Nothing read yet. -/
def start (flags : Flags) : Builder :=
  ⟨⟨.plain, 0, 0, flags, [], []⟩, [], 0, [], [], 0, false⟩

/-- Adds a piece to the current branch. -/
def push (b : Builder) (piece : Piece) : Builder :=
  { b with current := b.current.push piece }

/-- The number of the group that is spoken of. -/
def resolve (b : Builder) : Reference → Except PatternError Nat
  | .number n => .ok n
  | .name name =>
      match b.names.lookup name with
      | some n => .ok n
      | none => .error .malformed

/-- Whether a group is finished. -/
def isFinished (b : Builder) (group : Nat) : Bool :=
  (b.finished.lookup group).isSome

/-- The number of groups before the outermost place from which the reader looks back, if any. -/
def beforeLookingBack? (b : Builder) : Option Nat :=
  ((b.current :: b.outer).reverse.find? fun f =>
    match f.bracket with
    | .behind _ => true
    | _ => false).map Frame.earlier

/-- Whether a group may be spoken of where the reader stands. Looking back, only groups that were
finished before can be. -/
def isInReach (b : Builder) (group : Nat) : Bool :=
  match b.beforeLookingBack? with
  | some earlier => b.isFinished group && decide (group ≤ earlier)
  | none => true

/-- A reference back to a finished group. -/
def refer (b : Builder) (reference : Reference) : Except PatternError Builder := do
  let group ← b.resolve reference
  if b.isFinished group && b.isInReach group then
    return b.push (.node (.again group b.current.flags.folding))
  else .error .malformed

/-- Begins a group inside the current one. -/
def descend (b : Builder) (bracket : Bracket) (index : Nat) (flags : Flags) :
    Except PatternError Builder :=
  let b' :=
    { b with
      current := ⟨bracket, index, b.groups, flags, [], []⟩
      outer := b.current :: b.outer }
  let depth := b.outer.foldl (fun total frame => total + frame.depth) b'.current.depth
  if depthLimit < depth then .error .nestedTooDeeply
  else .ok b'

/-- Begins a group of the given kind. -/
def enter (b : Builder) (bracket : Bracket) : Except PatternError Builder :=
  let flags := b.current.flags
  match bracket with
  | .capture name => do
      let index := b.groups + 1
      let b ← b.descend bracket index flags
      match name with
      | none => return { b with groups := index }
      | some name =>
          if (b.names.lookup name).isSome then .error .malformed
          else return { b with groups := index, names := (name, index) :: b.names }
  | .given reference => do
      let group ← b.resolve reference
      if b.isInReach group then
        let b := { b with asked := max b.asked group }
        b.descend bracket group flags
      else .error .malformed
  | .scoped on off => b.descend bracket 0 (flags.within on off)
  | _ => b.descend bracket 0 flags

/-- The piece that the current group makes. -/
def finish (b : Builder) : Piece :=
  let f := b.current
  let body := Node.sequence f.body
  match f.bracket with
  | .plain => .plain f.body
  | .capture _ => .node (.group f.index body)
  | .scoped .. => .node (.scope body)
  | .atomic => .node (.atomic body)
  | .ahead positive => .node (.ahead positive body)
  | .behind positive => .node (.behind positive (body.widths b.finished).1 body)
  | .given _ =>
      match f.branches with
      | yes :: _ => .node (.given f.index (Node.sequence yes) (Node.sequence f.branch))
      | [] => .node (.given f.index (Node.sequence f.branch) .empty)

/-- Whether the current group looks back over a distance that is not fixed, or is too great. -/
def looksAmiss (b : Builder) : Bool :=
  match b.current.bracket with
  | .behind _ =>
      let (low, high) := (Node.sequence b.current.body).widths b.finished
      high != some low || decide (farthestBack < low)
  | _ => false

/-- Ends the current group. -/
def leave (b : Builder) : Except PatternError Builder :=
  match b.outer with
  | [] => .error (if b.current.flags.conflict then .conflictingFlags else .malformed)
  | parent :: outer =>
      let finished :=
        match b.current.bracket with
        | .capture _ =>
            (b.current.index, (Node.sequence b.current.body).widths b.finished) :: b.finished
        | _ => b.finished
      .ok { b with
        current := parent.push b.finish
        outer := outer
        finished := finished
        faulty := b.faulty || b.looksAmiss }

/-- Sets flags for the whole pattern, which is possible only before anything else. -/
def setFlags (b : Builder) (on : Flags) : Except PatternError Builder :=
  if b.outer.isEmpty && b.current.branches.isEmpty && b.current.pieces.isEmpty then
    .ok { b with current := { b.current with flags := b.current.flags ++ on } }
  else .error .malformed

/-- Takes one more piece of the pattern. -/
def feed (b : Builder) : Token → Except PatternError Builder
  | .item node => .ok (b.push (.node node))
  | .repetition least most mode => do
      return { b with
        current := ← b.current.repeatLast least most mode
        faulty := b.faulty || b.current.flags.contains .noLoops }
  | .opening bracket => b.enter bracket
  | .closing => b.leave
  | .bar => do return { b with current := ← b.current.split }
  | .reference group => b.refer group
  | .flags on => b.setFlags on
  | .comment => .ok b

/-- Reads the rest of a pattern; `fuel` bounds the number of its pieces. -/
def readAll : Nat → Builder → List Char → Except PatternError Builder
  | _, b, [] => .ok b
  | 0, _, _ :: _ => .error .malformed
  | fuel + 1, b, c :: rest => do
      let (token, rest) ← nextToken b.current.flags c rest
      readAll fuel (← b.feed token) rest

end Builder

/-- Compiles a pattern with the given flags in force from its beginning. -/
def parse (flags : Flags) (cs : List Char) : Except PatternError Pattern := do
  let b ← (Builder.start flags).readAll cs.length cs
  if !b.outer.isEmpty then .error .malformed
  else if b.current.flags.conflict then .error .conflictingFlags
  else if b.groups < b.asked || b.faulty then .error .malformed
  else
    let root := Node.sequence b.current.body
    return ⟨root, b.groups, (root.widths b.finished).1, b.current.flags.contains .ignoreCase⟩

end SymbolSearch.Pattern
