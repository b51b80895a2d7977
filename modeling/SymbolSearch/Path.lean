import SymbolSearch.OrderedMap
import SymbolSearch.Text.Find
import SymbolSearch.Text.Printable

namespace SymbolSearch

/-- Why the system does not tell what a path names. -/
inductive Hindrance
  | nameTooLong
  | notPermitted
deriving Repr, DecidableEq

/-- The wording of a hindrance. -/
def Hindrance.message : Hindrance → String
  | .nameTooLong => "[Errno 36] File name too long"
  | .notPermitted => "[Errno 13] Permission denied"

/-- Why a path operation fails. -/
inductive PathError
  | embeddedNull
  | unknownHome
  | emptyName (path : String)
  | invalidName (name : String)
  | hidden (path : String) (reason : Hindrance)
deriving Repr, DecidableEq

/-- The wording of an error. -/
def PathError.message : PathError → String
  | .embeddedNull => "embedded null byte"
  | .unknownHome => "Could not determine home directory."
  | .emptyName path => Text.quoted path ++ " has an empty name"
  | .invalidName name => "Invalid name " ++ Text.quoted name
  | .hidden path reason => reason.message ++ ": " ++ Text.quoted path

/-- A path: its root, which is empty for a relative path, and its components without empty ones and
single dots. -/
structure Path where
  root : String
  parts : List String
deriving Repr, DecidableEq

namespace Path

/-- The components of a path's text. -/
def components (cs : List Char) : List String :=
  ((Text.splitAt '/' cs).map String.ofList).filter fun part => part != "" && part != "."

/-- Reads a path. Exactly two leading slashes are kept; any other number counts as one. -/
def parse (s : String) : Path :=
  let cs := s.toList
  let root :=
    match cs with
    | '/' :: '/' :: '/' :: _ => "/"
    | '/' :: '/' :: _ => "//"
    | '/' :: _ => "/"
    | _ => ""
  ⟨root, components cs⟩

end Path

/-- The home directories: that of the user, and those of users by name. -/
structure Homes where
  own : String
  others : OrderedMap String String

/-- The home directory of a user; the own one when there is no name. A text that begins with a tilde
is no directory. A name with a null character cannot be looked up. -/
def Homes.directory (homes : Homes) (user : List Char) : Except PathError Path :=
  let known :=
    if user.isEmpty then some homes.own else OrderedMap.get? (String.ofList user) homes.others
  if user.contains (Char.ofNat 0) then .error .embeddedNull
  else
    match known with
    | none => .error .unknownHome
    | some text =>
        let cs := (text.toList.reverse.dropWhile (· == '/')).reverse
        if cs.head? == some '~' then .error .unknownHome
        else .ok (if cs.isEmpty then ⟨"/", []⟩ else Path.parse (String.ofList cs))

namespace Path

/-- The text of a path. -/
def text (p : Path) : String :=
  if p.root == "" && p.parts.isEmpty then "." else p.root ++ String.intercalate "/" p.parts

/-- A path below another one; an absolute path stands for itself. -/
def join (p q : Path) : Path :=
  if q.root == "" then ⟨p.root, p.parts ++ q.parts⟩ else q

/-- The last component, or the empty string when there is none. -/
def name (p : Path) : String :=
  p.parts.getLastD ""

/-- A name split before its last dot, unless that dot is the first or the last character. -/
def splitName (name : String) : String × String :=
  let cs := name.toList
  let tail := cs.reverse.takeWhile (· != '.')
  let front := cs.take (cs.length - tail.length - 1)
  if tail.length == cs.length || tail.isEmpty || front.isEmpty then (name, "")
  else (String.ofList front, String.ofList ('.' :: tail.reverse))

/-- The part of the name before its suffix. -/
def stem (p : Path) : String :=
  (splitName p.name).1

/-- The part of the name from its last dot on. -/
def suffix (p : Path) : String :=
  (splitName p.name).2

/-- The path with another last component. -/
def withName (p : Path) (name : String) : Except PathError Path :=
  if p.name == "" then .error (.emptyName p.text)
  else if components name.toList != [name] then .error (.invalidName name)
  else .ok ⟨p.root, p.parts.dropLast ++ [name]⟩

/-- Replaces a leading tilde, with or without the name of a user, by a home directory. -/
def expandHome (homes : Homes) (p : Path) : Except PathError Path :=
  match p.root, p.parts with
  | "", first :: rest =>
      match first.toList with
      | '~' :: user => do
          let base ← homes.directory user
          return ⟨base.root, base.parts ++ rest⟩
      | _ => .ok p
  | _, _ => .ok p

/-- Folds each pair of dots into the component before it. The components read so far are given last
first. -/
def foldDots : List String → List String → List String
  | found, [] => found.reverse
  | found, part :: rest =>
      if part == ".." then foldDots (found.drop 1) rest else foldDots (part :: found) rest

/-- The absolute path without pairs of dots, starting from a working directory. -/
def absolute (directory : String) (p : Path) : Path :=
  let whole := (parse directory).join p
  ⟨"/", foldDots [] whole.parts⟩

/-- The absolute path of a path whose components can exist. -/
def resolve (directory : String) (p : Path) : Except PathError Path :=
  if p.parts.any fun part => part.toList.contains (Char.ofNat 0) then .error .embeddedNull
  else .ok (p.absolute directory)

end Path

/-- A file name below a directory name, as plain text; an absolute file name stands for itself. -/
def joinNames (directory file : String) : String :=
  if file.startsWith "/" then file
  else if directory == "" || directory.endsWith "/" then directory ++ file
  else directory ++ "/" ++ file

/-- The part of a file name after its last slash. -/
def baseName (file : String) : String :=
  String.ofList (file.toList.reverse.takeWhile (· != '/')).reverse

end SymbolSearch
