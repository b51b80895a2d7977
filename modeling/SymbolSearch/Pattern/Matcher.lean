import SymbolSearch.Pattern.Cursor
import SymbolSearch.Pattern.Error

namespace SymbolSearch.Pattern

/-- How an attempt ends: at a place, or in vain, and then with the position noted last and the marks
as they were left. -/
inductive Outcome
  | matched (c : Cursor)
  | failed (noted : Nat) (marks : Marks)
deriving Repr

/-- What a match continues with. -/
abbrev Continuation := Cursor → Outcome

/-- Nothing is left to be matched. -/
def done (c : Cursor) : Outcome :=
  .matched c.note

/-- What surrounds a tree: whether it stands inside a loop of several characters, and the code point
that is known to come next. -/
structure Setting where
  inLoop : Bool
  next : Option Nat
deriving Repr, DecidableEq

namespace Setting

/-- The setting of a tree behind which nothing is known. -/
def alone (s : Setting) : Setting :=
  { s with next := none }

/-- The setting of a tree that another one follows. -/
def before (s : Setting) (node : Node) : Setting :=
  match node.opening with
  | none => s
  | some opening => { s with next := opening.bind CharSet.literal? }

/-- The marks after a failed attempt. Inside a loop they are what they were before it; elsewhere the
entries that were there may have changed. -/
def restore (s : Setting) (saved left : Marks) : Marks :=
  if s.inLoop then saved else left.take saved.length

end Setting

/-- Whether the next character already rules a tree out. -/
def Node.isRuledOut (node : Node) (c : Cursor) : Bool :=
  match node.opening with
  | some (some set) => set.isScreened && (c.step? set.contains).isNone
  | _ => false

/-- Whether a tree is a choice. -/
def Node.isChoice : Node → Bool
  | .alt .. => true
  | _ => false

/-- Tries one branch of a choice. -/
def attempt (run : Cursor → Outcome) (node : Node) (c : Cursor) : Outcome :=
  if node.isRuledOut c then .failed c.noted c.marks else run c.note

/-- Tries places one after the other, except those where the code point that has to come next does
not; `saved` are the marks before the first. -/
def attemptAll (s : Setting) (saved : Marks) (next : Continuation) :
    List Cursor → Nat → Marks → Outcome
  | [], noted, marks => .failed noted marks
  | c :: rest, noted, marks =>
      if s.next.any fun n => (c.step? fun x => x.toNat == n).isNone then
        attemptAll s saved next rest noted marks
      else
        match next { c.note with marks := marks } with
        | .matched d => .matched d
        | .failed noted left => attemptAll s saved next rest noted (s.restore saved left)

/-- As few characters of a set as possible, from a place that enough of them precede. The first
number bounds the steps, the second those that are still allowed. -/
def creep (s : Setting) (set : CharSet) (next : Continuation) :
    Nat → Option Nat → Cursor → Outcome
  | 0, _, c => .failed c.noted c.marks
  | fuel + 1, allowed, c =>
      match next c.note with
      | .matched d => .matched d
      | .failed _ left =>
          let marks := s.restore c.marks left
          match c.step? set.contains with
          | none => .failed c.position marks
          | some d =>
              let d := { d with marks := marks, noted := c.position }
              let d := if set.isStepwise then d.note else d
              match allowed with
              | some 0 => .failed d.noted marks
              | _ => creep s set next fuel (allowed.map (· - 1)) d

/-- A loop over the characters of a set. -/
def runSet (s : Setting) (set : CharSet) (least : Nat) (most : Option Nat) (mode : Mode)
    (c : Cursor) (next : Continuation) : Outcome :=
  if c.after.length < least then .failed c.noted c.marks
  else
    let limit :=
      match mode with
      | .frugal => least
      | _ => min (most.getD c.after.length) c.after.length
    match c.note.reach set limit [] with
    | [] => .failed c.position c.marks
    | last :: passed =>
        let noted := if set.isStepwise then last.position else c.position
        let count := last.position - c.position
        if count < least then .failed noted c.marks
        else
          match mode with
          | .greedy =>
              attemptAll s c.marks next ((last :: passed).take (count + 1 - least)) noted c.marks
          | .frugal => creep s set next (c.after.length + 1) (most.map (· - least)) last
          | .possessive => next { last with noted := noted }

/-- Rounds of a greedy or frugal loop. A round past the least number starts only where the round
before it did not, so a round that matches nothing is the last; `fuel` bounds the number of rounds.
A round past the least number that fails leaves no marks behind in a greedy loop. -/
def rounds (s : Setting) (body : Cursor → Continuation → Outcome) (least : Nat)
    (most : Option Nat) (eager : Bool) (next : Continuation) :
    Nat → Nat → Option Nat → Cursor → Outcome
  | 0, _, _, c => .failed c.position c.marks
  | fuel + 1, count, last, c =>
      let c := c.note
      let settle (outcome : Outcome) : Outcome :=
        match outcome with
        | .matched d => .matched d
        | .failed _ left => .failed c.position left
      let another (c : Cursor) (last : Option Nat) : Outcome :=
        body c (rounds s body least most eager next fuel (count + 1) last)
      let mayGoOn := most.all (fun n => decide (count < n)) && last != some c.position
      if count < least then settle (another c last)
      else if eager then
        match if mayGoOn then another c (some c.position) else .failed c.position c.marks with
        | .matched d => .matched d
        | .failed .. => settle (next c)
      else
        match next c with
        | .matched d => .matched d
        | .failed _ left =>
            let c := { c with marks := s.restore c.marks left }
            if mayGoOn then settle (another c (some c.position))
            else .failed c.position c.marks

/-- Rounds of a possessive loop that began at the position `start`. A round past the least number
that fails ends the loop where the round noted a position last. -/
def holdRounds (body : Cursor → Outcome) (least : Nat) (most : Option Nat) (start : Nat) :
    Nat → Nat → Option Nat → Cursor → Outcome
  | 0, _, _, c => .failed start c.marks
  | fuel + 1, count, last, c =>
      if count < least then
        match body c with
        | .matched d => holdRounds body least most start fuel (count + 1) last d
        | .failed _ left => .failed start left
      else if most.all (fun n => decide (count < n)) && last != some c.position then
        match body c with
        | .matched d => holdRounds body least most start fuel (count + 1) (some c.position) d
        | .failed noted _ => .matched (c.seek noted)
      else .matched c

/-- Enough rounds for a loop that starts at the given place. -/
def enoughRounds (least : Nat) (c : Cursor) : Nat :=
  least + c.before.length + c.after.length + 2

/-- Matches a tree at a place and goes on with a continuation; the first way that lets the
continuation succeed wins. -/
def Node.run : Node → Setting → Cursor → Continuation → Outcome
  | .empty, _, c, next => next c
  | .one set, _, c, next =>
      match c.step? set.contains with
      | some d => next d
      | none => .failed c.noted c.marks
  | .anchor a, _, c, next => if a.holds c then next c else .failed c.noted c.marks
  | .seq a b, s, c, next => a.run (s.before b) c fun d => b.run s d next
  | .alt a b, s, c, next =>
      match attempt (fun c => a.run s.alone c next) a c with
      | .matched d => .matched d
      | .failed noted left =>
          let c := { c with noted := noted, marks := s.restore c.marks left }
          if b.isChoice then b.run s c next
          else
            match attempt (fun c => b.run s.alone c next) b c with
            | .matched d => .matched d
            | .failed noted left => .failed noted (s.restore c.marks left)
  | .group i body, s, c, next =>
      body.run s.alone (c.mark (2 * (i - 1))) fun d => next (d.mark (2 * (i - 1) + 1))
  | .scope body, s, c, next => body.run s c next
  | .loop least most mode body, s, c, next =>
      match body.set? with
      | some set => runSet s set least most mode c next
      | none =>
          let inside : Setting := ⟨true, none⟩
          let fuel := enoughRounds least c
          match mode with
          | .greedy => rounds s (body.run inside) least most true next fuel 0 none c
          | .frugal => rounds s (body.run inside) least most false next fuel 0 none c
          | .possessive =>
              let round (d : Cursor) : Outcome := body.run s.alone d done
              match holdRounds round least most c.position fuel 0 none c.note with
              | .matched d => next d
              | .failed noted left => .failed noted left
  | .again i folding, _, c, next =>
      match (c.marks.span? i).bind fun span => stepOver? folding (c.slice span) c with
      | some d => next d
      | none => .failed c.noted c.marks
  | .given i yes no, s, c, next =>
      if (c.marks.span? i).isSome then yes.run (if no = .empty then s else s.alone) c next
      else no.run s c next
  | .atomic body, s, c, next =>
      match body.run s.alone c.note done with
      | .matched d => next d
      | .failed _ left => .failed c.position left
  | .ahead positive body, s, c, next =>
      match body.run s.alone c.note done with
      | .matched d =>
          if positive then next { c with noted := d.noted, marks := d.marks }
          else .failed d.noted d.marks
      | .failed noted left =>
          if positive then .failed noted left
          else next { c with noted := noted, marks := s.restore c.marks left }
  | .behind positive width body, s, c, next =>
      match c.back? width with
      | none => if positive then .failed c.noted c.marks else next c
      | some d =>
          match body.run s.alone d.note done with
          | .matched d =>
              if positive then next { c with noted := d.noted, marks := d.marks }
              else .failed d.noted d.marks
          | .failed noted left =>
              if positive then .failed noted left
              else next { c with noted := noted, marks := s.restore c.marks left }

/-- A match: where it starts and ends, and what the groups matched. -/
structure Match where
  span : Span
  marks : Marks
deriving Repr

/-- The span of a group that took part in a match. -/
def Match.span? (m : Match) (group : Nat) : Option Span :=
  m.marks.span? group

/-- Whether one of the first groups would end before it begins. -/
def Match.isCrossed (m : Match) (groups : Nat) : Bool :=
  (List.range groups).any fun i =>
    (m.marks.bounds? (i + 1)).any fun span => decide (span.stop < span.start)

/-- The match of a tree at a place, with no regard to how the place was reached. -/
def matchAt? (node : Node) (c : Cursor) : Option Match :=
  match node.run ⟨false, none⟩ { c.note with marks := [] } done with
  | .matched d => some ⟨⟨c.position, d.position⟩, d.marks⟩
  | .failed .. => none

/-- The first match, from the given place on, where at least `least` characters are left. The number
bounds how many places are tried. -/
def searchFrom (node : Node) (least : Nat) : Nat → Cursor → Option Match
  | 0, _ => none
  | fuel + 1, c =>
      if c.after.length < least then none
      else
        match matchAt? node c with
        | some m => some m
        | none => (c.step? fun _ => true).bind (searchFrom node least fuel)

end SymbolSearch.Pattern

namespace SymbolSearch

/-- The leftmost match of a pattern in a text. -/
def Pattern.search (p : Pattern) (text : List Char) :
    Except Pattern.PatternError (Option Pattern.Match) :=
  match Pattern.searchFrom p.root p.least (text.length + 1) (.start text) with
  | some m => if m.isCrossed p.groups then .error .crossedSpan else .ok (some m)
  | none => .ok none

end SymbolSearch
