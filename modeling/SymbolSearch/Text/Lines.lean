namespace SymbolSearch.Text

/-- The lines of a text, without their ends. A carriage return followed by a line feed ends one
line, and no empty line follows the last end. The first argument holds the characters of the
current line, last first. -/
def linesFrom (isBreak : Char → Bool) (current : List Char) : List Char → List (List Char)
  | [] => if current.isEmpty then [] else [current.reverse]
  | '\r' :: '\n' :: rest => current.reverse :: linesFrom isBreak [] rest
  | c :: rest =>
      if isBreak c then current.reverse :: linesFrom isBreak [] rest
      else linesFrom isBreak (c :: current) rest

/-- Line feed and carriage return. -/
def isNewline (c : Char) : Bool :=
  c == '\n' || c == '\r'

/-- Every line boundary: also vertical tab, form feed, the three information separators, next line,
and the line and paragraph separators. -/
def isLineBoundary (c : Char) : Bool :=
  let n := c.toNat
  (0x0a ≤ n && n ≤ 0x0d) || (0x1c ≤ n && n ≤ 0x1e) || n == 0x85 || n == 0x2028 || n == 0x2029

/-- The lines of a text file, which end only at newlines. -/
def fileLines (cs : List Char) : List (List Char) :=
  linesFrom isNewline [] cs

/-- The lines of a text, which end at any line boundary. -/
def lines (cs : List Char) : List (List Char) :=
  linesFrom isLineBoundary [] cs

end SymbolSearch.Text
