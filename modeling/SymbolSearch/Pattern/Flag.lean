import SymbolSearch.Pattern.CharSet

namespace SymbolSearch.Pattern

/-- What a pattern can ask for in so many letters. -/
inductive Flag
  | ignoreCase
  | multiLine
  | dotAll
  | verbose
  | ascii
  | unicode
  | noLoops
deriving Repr, DecidableEq

namespace Flag

/-- The flag that a letter stands for. -/
def ofLetter? : Char → Option Flag
  | 'i' => some .ignoreCase
  | 'm' => some .multiLine
  | 's' => some .dotAll
  | 'x' => some .verbose
  | 'a' => some .ascii
  | 'u' => some .unicode
  | 't' => some .noLoops
  | _ => none

/-- Whether a flag chooses the characters that classes and case refer to. -/
def isRepertoire : Flag → Bool
  | .ascii | .unicode => true
  | _ => false

end Flag

/-- The flags in force. -/
abbrev Flags := List Flag

namespace Flags

/-- The flags inside a group that switches some on and some off. A choice of characters replaces the
one in force. -/
def within (flags on off : Flags) : Flags :=
  let kept := if on.any Flag.isRepertoire then flags.filter (!·.isRepertoire) else flags
  (kept ++ on).filter fun flag => !off.contains flag

/-- How letters are compared. -/
def folding (flags : Flags) : Folding :=
  if flags.contains .ignoreCase then
    if flags.contains .ascii then .ascii else .full
  else .exact

/-- Whether the flags ask for two sets of characters at once. -/
def conflict (flags : Flags) : Bool :=
  flags.contains .ascii && flags.contains .unicode

end Flags

/-- What a group of flag letters asks for: flags for the whole pattern, or for the group that it
opens. -/
inductive FlagGroup
  | whole (on : Flags)
  | scoped (on off : Flags)
deriving Repr, DecidableEq

/-- The flag letters at the beginning of a text. -/
def takeFlags : List Char → Flags × List Char
  | [] => ([], [])
  | c :: rest =>
      match Flag.ofLetter? c with
      | some flag =>
          let (flags, rest) := takeFlags rest
          (flag :: flags, rest)
      | none => ([], c :: rest)

/-- Flags for a group. The ones that concern the whole pattern cannot be limited to a group, a
choice of characters cannot be switched off, and no flag is switched on and off. -/
def scopedFlags? (on off : Flags) (rest : List Char) : Option (FlagGroup × List Char) :=
  if on.contains .noLoops || off.contains .noLoops || off.any Flag.isRepertoire ||
      on.any off.contains then none
  else some (.scoped on off, rest)

/-- A group of flag letters, after the parenthesis and the question mark. -/
def flagGroup? (cs : List Char) : Option (FlagGroup × List Char) :=
  let (on, rest) := takeFlags cs
  if Flags.conflict on then none
  else
    match rest with
    | ')' :: rest => if on.isEmpty then none else some (.whole on, rest)
    | ':' :: rest => if on.isEmpty then none else scopedFlags? on [] rest
    | '-' :: rest =>
        match takeFlags rest with
        | ([], _) => none
        | (off, ':' :: rest) => scopedFlags? on off rest
        | _ => none
    | _ => none

end SymbolSearch.Pattern
