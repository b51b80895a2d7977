namespace SymbolSearch.Text

/-- White space of any script, together with the separators of the control range. -/
def isBlank (c : Char) : Bool :=
  let n := c.toNat
  (0x09 ≤ n && n ≤ 0x0d) || (0x1c ≤ n && n ≤ 0x20) || n == 0x85 || n == 0xa0 || n == 0x1680 ||
    (0x2000 ≤ n && n ≤ 0x200a) || n == 0x2028 || n == 0x2029 || n == 0x202f || n == 0x205f ||
    n == 0x3000

/-- Blanks removed at both ends. -/
def trimmed (cs : List Char) : List Char :=
  ((cs.dropWhile isBlank).reverse.dropWhile isBlank).reverse

/-- Blanks removed at both ends of a string. -/
def strip (s : String) : String :=
  String.ofList (trimmed s.toList)

/-- White space within the first 256 code points that is not a matter of typography: that of ASCII
and the information separators. -/
def isPlainBlank (c : Char) : Bool :=
  let n := c.toNat
  (0x09 ≤ n && n ≤ 0x0d) || (0x1c ≤ n && n ≤ 0x20)

/-- The maximal pieces of a text that contain no blank, where the first argument tells what a blank
is. The second argument holds the characters of the current piece, last first. -/
def wordsFrom (blank : Char → Bool) (current : List Char) : List Char → List (List Char)
  | [] => if current.isEmpty then [] else [current.reverse]
  | c :: rest =>
      if blank c then
        if current.isEmpty then wordsFrom blank [] rest
        else current.reverse :: wordsFrom blank [] rest
      else wordsFrom blank (c :: current) rest

/-- The words of a text, that is, its maximal pieces without a blank. -/
def words (blank : Char → Bool) (cs : List Char) : List (List Char) :=
  wordsFrom blank [] cs

end SymbolSearch.Text
