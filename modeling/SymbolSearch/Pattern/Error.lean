namespace SymbolSearch.Pattern

/-- Why a pattern cannot be compiled or applied: it is not well-formed, a number of rounds is too
large or has too many digits, two sets of characters are asked for at once, groups are nested too
deeply, or a group would end before it begins. -/
inductive PatternError
  | malformed
  | repetitionTooLarge
  | numberTooLong
  | conflictingFlags
  | nestedTooDeeply
  | crossedSpan
deriving Repr, DecidableEq

end SymbolSearch.Pattern
