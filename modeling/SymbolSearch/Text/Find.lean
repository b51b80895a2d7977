namespace SymbolSearch.Text

/-- The position of the first occurrence of `needle` in a text, counted from `position`. -/
def findFrom (needle : List Char) (position : Nat) : List Char → Option Nat
  | [] => if needle.isEmpty then some position else none
  | c :: rest =>
      if needle.isPrefixOf (c :: rest) then some position
      else findFrom needle (position + 1) rest

/-- The position of the first occurrence of `needle` in `text`. -/
def find? (needle text : List Char) : Option Nat :=
  findFrom needle 0 text

/-- The pieces of a text between occurrences of a character; always at least one. -/
def splitAt (sep : Char) : List Char → List (List Char)
  | [] => [[]]
  | c :: rest =>
      if c == sep then [] :: splitAt sep rest
      else
        match splitAt sep rest with
        | [] => [[c]]
        | piece :: pieces => (c :: piece) :: pieces

/-- A string padded with spaces on the right to the given width. -/
def padRight (width : Nat) (s : String) : String :=
  s ++ String.ofList (List.replicate (width - s.length) ' ')

/-- A string padded with spaces on the left to the given width. -/
def padLeft (width : Nat) (s : String) : String :=
  String.ofList (List.replicate (width - s.length) ' ') ++ s

end SymbolSearch.Text
