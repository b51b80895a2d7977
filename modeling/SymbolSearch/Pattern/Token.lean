import SymbolSearch.Decimal.Reading
import SymbolSearch.Pattern.Escape
import SymbolSearch.Text.Name

namespace SymbolSearch.Pattern

open SymbolSearch.Text

/-- How a pattern speaks of a group. -/
inductive Reference
  | number (n : Nat)
  | name (name : String)
deriving Repr, DecidableEq

/-- The kinds of groups. -/
inductive Bracket
  | plain
  | capture (name : Option String)
  | scoped (on off : Flags)
  | atomic
  | ahead (positive : Bool)
  | behind (positive : Bool)
  | given (group : Reference)
deriving Repr, DecidableEq

/-- The pieces that a pattern is written with. -/
inductive Token
  | item (node : Node)
  | repetition (least : Nat) (most : Option Nat) (mode : Mode)
  | opening (bracket : Bracket)
  | closing
  | bar
  | reference (group : Reference)
  | flags (on : Flags)
  | comment
deriving Repr

/-- A piece that stands for one code point. -/
def Token.literal (flags : Flags) (n : Nat) : Token :=
  .item (.one (CharSet.single flags.folding false n))

/-- Numbers of rounds from here on are refused. -/
def repetitionLimit : Nat := 4294967295

/-- How a repetition is suffixed. -/
def takeMode : List Char → Mode × List Char
  | '?' :: rest => (.frugal, rest)
  | '+' :: rest => (.possessive, rest)
  | cs => (.greedy, cs)

/-- The number of rounds that a list of ASCII digits stands for, if there is one. -/
def count? (ds : List Char) : Except PatternError (Option Nat) :=
  if ds.isEmpty then .ok none
  else if Decimal.maxDigits < ds.length then .error .numberTooLong
  else
    let n := ds.foldl (fun n d => n * 10 + (d.toNat - 48)) 0
    if repetitionLimit ≤ n then .error .repetitionTooLarge else .ok (some n)

/-- Bounds in braces after the opening one. Braces that hold no bounds are ordinary characters. -/
def braceToken (flags : Flags) (cs : List Char) : Except PatternError (Token × List Char) :=
  let literal := (Token.literal flags 123, cs)
  match cs with
  | '\x7d' :: _ => .ok literal
  | _ =>
      let low := cs.takeWhile Char.isDigit
      let rest := cs.dropWhile Char.isDigit
      let (high, rest) :=
        match rest with
        | ',' :: rest => (rest.takeWhile Char.isDigit, rest.dropWhile Char.isDigit)
        | _ => (low, rest)
      match rest with
      | ['\x7d', '\\'] => .error .malformed
      | '\x7d' :: rest => do
          let least := (← count? low).getD 0
          let most ← count? high
          if most.any (fun n => decide (n < least)) then .error .malformed
          else
            let (mode, rest) := takeMode rest
            .ok (.repetition least most mode, rest)
      | _ => .ok literal

/-- A reference to a group or an octal escape, from its first digit on. Three octal digits are an
escape, and so is anything that begins with a zero. -/
def digitToken (flags : Flags) (c : Char) (rest : List Char) :
    Except PatternError (Token × List Char) :=
  let value (d : Char) := d.toNat - 48
  if c == '0' then
    let (n, rest) := octalPoint 2 0 rest
    .ok (.literal flags n, rest)
  else
    match rest with
    | d :: rest' =>
        if d.isDigit then
          match octalDigit? c, octalDigit? d, rest'.head?.bind octalDigit? with
          | some a, some b, some e =>
              let n := (a * 8 + b) * 8 + e
              if n < 256 then .ok (.literal flags n, rest'.drop 1) else .error .malformed
          | _, _, _ => .ok (.reference (.number (value c * 10 + value d)), rest')
        else .ok (.reference (.number (value c)), rest)
    | [] => .ok (.reference (.number (value c)), rest)

/-- What a backslash and a character mean outside brackets. -/
def escapeToken (flags : Flags) (c : Char) (rest : List Char) :
    Except PatternError (Token × List Char) :=
  let narrow := flags.contains .ascii
  match c with
  | 'A' => .ok (.item (.anchor .textStart), rest)
  | 'Z' => .ok (.item (.anchor .textEnd), rest)
  | 'b' => .ok (.item (.anchor (.boundary narrow false)), rest)
  | 'B' => .ok (.item (.anchor (.boundary narrow true)), rest)
  | _ =>
      if let some (category, negated) := category? c then
        let members := [Member.named category narrow negated]
        .ok (.item (.one (CharSet.ofMembers flags.folding false members)), rest)
      else if let some n := control? c then .ok (.literal flags n, rest)
      else if let some (n, rest) := codePoint? c rest then .ok (.literal flags n, rest)
      else if c.isDigit then digitToken flags c rest
      else if isPlainEscape c then .ok (.literal flags c.toNat, rest)
      else .error .malformed

/-- The text up to the given end mark, and what follows the mark. -/
def takeUntil (stop : Char) (cs : List Char) : Except PatternError (List Char × List Char) :=
  let taken := cs.takeWhile (· != stop)
  match cs.drop taken.length with
  | _ :: rest => .ok (taken, rest)
  | [] => .error .malformed

/-- A group name up to the given end mark. -/
def groupName (stop : Char) (cs : List Char) : Except PatternError (String × List Char) := do
  let (name, rest) ← takeUntil stop cs
  if isName name then .ok (String.ofList name, rest) else .error .malformed

/-- The group that a condition asks for, by its name or by a positive number. -/
def conditionGroup (cs : List Char) : Except PatternError (Reference × List Char) := do
  let (text, rest) ← takeUntil ')' cs
  if isName text then .ok (.name (String.ofList text), rest)
  else
    match Decimal.readInteger text with
    | .number (.ofNat (n + 1)) => .ok (.number (n + 1), rest)
    | _ => .error .malformed

/-- What follows a remark in parentheses. An escaped parenthesis does not end it. -/
def skipRemark : List Char → Except PatternError (List Char)
  | [] => .error .malformed
  | ['\\'] => .error .malformed
  | '\\' :: _ :: rest => skipRemark rest
  | ')' :: rest => .ok rest
  | _ :: rest => skipRemark rest

/-- What follows a remark at the end of a line. An escaped line feed does not end it. -/
def skipLine : List Char → Except PatternError (List Char)
  | [] => .ok []
  | ['\\'] => .error .malformed
  | '\\' :: _ :: rest => skipLine rest
  | '\n' :: rest => .ok rest
  | _ :: rest => skipLine rest

/-- The extension after a parenthesis and a question mark. -/
def extensionToken : List Char → Except PatternError (Token × List Char)
  | ':' :: rest => .ok (.opening .plain, rest)
  | '>' :: rest => .ok (.opening .atomic, rest)
  | '=' :: rest => .ok (.opening (.ahead true), rest)
  | '!' :: rest => .ok (.opening (.ahead false), rest)
  | '<' :: '=' :: rest => .ok (.opening (.behind true), rest)
  | '<' :: '!' :: rest => .ok (.opening (.behind false), rest)
  | '(' :: rest => do
      let (group, rest) ← conditionGroup rest
      return (.opening (.given group), rest)
  | 'P' :: '<' :: rest => do
      let (name, rest) ← groupName '>' rest
      return (.opening (.capture (some name)), rest)
  | 'P' :: '=' :: rest => do
      let (name, rest) ← groupName ')' rest
      return (.reference (.name name), rest)
  | '#' :: rest => do return (.comment, ← skipRemark rest)
  | cs =>
      match flagGroup? cs with
      | some (.whole on, rest) => .ok (.flags on, rest)
      | some (.scoped on off, rest) => .ok (.opening (.scoped on off), rest)
      | none => .error .malformed

/-- A blank of the kind that a verbose pattern may be laid out with. -/
def isLayout (c : Char) : Bool :=
  c == ' ' || (9 ≤ c.toNat && c.toNat ≤ 13)

/-- The next piece of a pattern that is not at its end. In a verbose pattern blanks and the rest of
a line after a number sign are remarks. -/
def nextToken (flags : Flags) (c : Char) (rest : List Char) :
    Except PatternError (Token × List Char) :=
  if flags.contains .verbose && isLayout c then .ok (.comment, rest)
  else if flags.contains .verbose && c == '#' then do return (.comment, ← skipLine rest)
  else
    match c with
    | '\\' =>
        match rest with
        | d :: rest => escapeToken flags d rest
        | [] => .error .malformed
    | '[' => do
        let (node, rest) ← setNode flags rest
        return (.item node, rest)
    | '*' => let (mode, rest) := takeMode rest; .ok (.repetition 0 none mode, rest)
    | '+' => let (mode, rest) := takeMode rest; .ok (.repetition 1 none mode, rest)
    | '?' => let (mode, rest) := takeMode rest; .ok (.repetition 0 (some 1) mode, rest)
    | '\x7b' => braceToken flags rest
    | '.' => .ok (.item (.one (.any (flags.contains .dotAll))), rest)
    | '^' => .ok (.item (.anchor (.lineStart (flags.contains .multiLine))), rest)
    | '$' => .ok (.item (.anchor (.lineEnd (flags.contains .multiLine))), rest)
    | '|' => .ok (.bar, rest)
    | ')' => .ok (.closing, rest)
    | '(' =>
        match rest with
        | '?' :: rest => extensionToken rest
        | _ => .ok (.opening (.capture none), rest)
    | _ => .ok (.literal flags c.toNat, rest)

end SymbolSearch.Pattern
