namespace SymbolSearch.Text

/-- How far a control sequence has come: none has begun, the escape has been read, or also the
bracket and parameters, or also characters between these and the final one. -/
inductive SequencePart
  | outside
  | escape
  | parameters
  | intermediates
deriving Repr, DecidableEq

namespace SequencePart

/-- Where a text stands after a character outside a control sequence. -/
def start (c : Char) : SequencePart :=
  if c.toNat == 0x1b then .escape else .outside

/-- Where a text stands after a character that goes on with a control sequence. Nothing comes of a
character that does not. -/
def next (p : SequencePart) (c : Char) : Option SequencePart :=
  let n := c.toNat
  match p with
  | .outside => none
  | .escape => if c == '[' then some .parameters else none
  | .parameters =>
      if 0x30 ≤ n && n ≤ 0x3f then some .parameters
      else if 0x20 ≤ n && n ≤ 0x2f then some .intermediates
      else if 0x40 ≤ n && n ≤ 0x7e then some .outside
      else none
  | .intermediates =>
      if 0x20 ≤ n && n ≤ 0x2f then some .intermediates
      else if 0x40 ≤ n && n ≤ 0x7e then some .outside
      else none

end SequencePart

/-- The characters of a text that belong to no control sequence. The first arguments hold where the
text stands, and what has been read of a sequence, last character first. -/
def plainFrom (part : SequencePart) (pending : List Char) : List Char → List Char
  | [] => pending.reverse
  | c :: rest =>
      match part.next c with
      | some .outside => plainFrom .outside [] rest
      | some part => plainFrom part (c :: pending) rest
      | none =>
          pending.reverse ++
            match SequencePart.start c with
            | .outside => c :: plainFrom .outside [] rest
            | part => plainFrom part [c] rest

/-- A text without the control sequences that move the cursor or colour a screen. -/
def withoutControlSequences (s : String) : String :=
  String.ofList (plainFrom .outside [] s.toList)

end SymbolSearch.Text
