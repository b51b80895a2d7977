import SymbolSearch.Decimal.Reading
import SymbolSearch.FileTree

namespace SymbolSearch.CommandLine

/-- What can be given for an option or as an argument. An option that is a flag takes nothing. -/
inductive ValueForm
  | flag
  | text
  | integer
  | choice (words : List String)
  | directory
  | file
deriving Repr, DecidableEq

/-- Whether a value has the form asked for. A directory need not exist, but must not be a file; a
file must exist. Whether a path exists cannot be asked when it can be no path. -/
def ValueForm.admits (files : FileTree) (form : ValueForm) (value : String) :
    Except PathError Bool :=
  let askFile : Except PathError Bool :=
    if value.toList.contains (Char.ofNat 0) then .error .embeddedNull else .ok (files.isFile value)
  match form with
  | .flag | .text => .ok true
  | .integer => .ok (Decimal.readInt? value.toList).isSome
  | .choice words => .ok (words.contains value)
  | .directory => askFile.map not
  | .file => askFile

/-- An option of a command: its names, the first of which identifies it, and what it takes. -/
structure Switch where
  names : List String
  form : ValueForm
deriving Repr, DecidableEq

namespace Switch

/-- The name that identifies an option. -/
def name (s : Switch) : String :=
  s.names.headD ""

/-- Whether an option takes a value. -/
def takesValue (s : Switch) : Bool :=
  s.form != .flag

end Switch

/-- What a command accepts: its options, its arguments, and how many of these must be given. -/
structure Usage where
  options : List Switch
  arguments : List ValueForm
  required : Nat
deriving Repr, DecidableEq

/-- What was given on a command line. Of an option given twice the later value counts. -/
structure Given where
  values : List (String × String)
  arguments : List String
deriving Repr, DecidableEq

namespace Given

/-- Records the value of an option. -/
def setValue (g : Given) (option : Switch) (value : String) : Given :=
  { g with values := (option.name, value) :: g.values }

/-- The value of an option. -/
def value? (g : Given) (name : String) : Option String :=
  g.values.lookup name

/-- Whether an option was given. -/
def has (g : Given) (name : String) : Bool :=
  (g.value? name).isSome

/-- The names of the options in the order in which they were first given. -/
def names (g : Given) : List String :=
  (g.values.map Prod.fst).reverse.eraseDups

/-- The value of an option that is an integer, when it is given. -/
def integer? (g : Given) (name : String) : Option Int :=
  (g.value? name).bind fun text => Decimal.readInt? text.toList

end Given

/-- Why a command line is not run: it is used wrongly, or looking at it breaks down. -/
inductive Refusal
  | misused
  | broken (reason : PathError)
deriving Repr, DecidableEq

namespace Usage

/-- The option with the given name. -/
def option? (u : Usage) (name : String) : Option Switch :=
  u.options.find? fun option => option.names.contains name

/-- What an option word leads to: all is said, or the next word is the value of an option. -/
inductive Reading
  | done (given : Given)
  | awaiting (option : Switch) (given : Given)

/-- Short options written together. The rest after one that takes a value is that value. -/
def readCluster (u : Usage) : List Char → Given → Option Reading
  | [], g => some (.done g)
  | c :: rest, g =>
      match u.option? (String.ofList ['-', c]) with
      | none => none
      | some option =>
          if option.takesValue then
            if rest.isEmpty then some (.awaiting option g)
            else some (.done (g.setValue option (String.ofList rest)))
          else u.readCluster rest (g.setValue option "")

/-- A long option, with its value after an equals sign or in the next word. -/
def readLong (option : Switch) (attached : Option String) (g : Given) : Option Reading :=
  match option.takesValue, attached with
  | true, some value => some (.done (g.setValue option value))
  | true, none => some (.awaiting option g)
  | false, some _ => none
  | false, none => some (.done (g.setValue option ""))

/-- A word that begins with a dash and is longer than that. -/
def readOption (u : Usage) (word : String) (g : Given) : Option Reading :=
  let cs := word.toList
  if cs.take 2 == ['-', '-'] then
    let name := cs.takeWhile (· != '=')
    let attached := if name.length == cs.length then none else some (cs.drop (name.length + 1))
    match u.option? (String.ofList name) with
    | some option => readLong option (attached.map String.ofList) g
    | none => none
  else u.readCluster (cs.drop 1) g

/-- Whether a word is an option. -/
def isOption (word : String) : Bool :=
  word.startsWith "-" && decide (1 < word.length)

/-- Reads the words of a command line. Options and arguments may be mixed; two dashes end the
options. -/
def readWords (u : Usage) : List String → Given → Option Given
  | [], g => some g
  | word :: rest, g =>
      if word == "--" then some { g with arguments := g.arguments ++ rest }
      else if isOption word then
        match u.readOption word g with
        | none => none
        | some (.done g) => u.readWords rest g
        | some (.awaiting option g) =>
            match rest with
            | [] => none
            | value :: rest => u.readWords rest (g.setValue option value)
      else u.readWords rest { g with arguments := g.arguments ++ [word] }

/-- Demands that a value has the form asked for. -/
def demand (files : FileTree) (form : ValueForm) (value : String) : Except Refusal Unit :=
  match form.admits files value with
  | .error reason => .error (.broken reason)
  | .ok true => .ok ()
  | .ok false => .error .misused

/-- Demands that the options given have values of their forms. -/
def checkOptions (u : Usage) (files : FileTree) (g : Given) : Except Refusal Unit :=
  g.names.forM fun name =>
    match u.option? name, g.value? name with
    | some option, some value => demand files option.form value
    | _, _ => .ok ()

/-- Demands that the arguments given have their forms, that none is missing and none is left over.
The first argument tells how many must be given. -/
def checkArguments (files : FileTree) : Nat → List ValueForm → List String → Except Refusal Unit
  | _, [], [] => .ok ()
  | _, [], _ :: _ => .error .misused
  | required, _ :: _, [] => if required == 0 then .ok () else .error .misused
  | required, form :: forms, value :: values => do
      demand files form value
      checkArguments files (required - 1) forms values

/-- Reads a command line. Its words are taken apart first; then the options are looked at in the
order in which they are given, and then the arguments. -/
def read (u : Usage) (files : FileTree) (words : List String) : Except Refusal Given :=
  match u.readWords words ⟨[], []⟩ with
  | none => .error .misused
  | some g => do
      u.checkOptions files g
      checkArguments files u.required u.arguments g.arguments
      return g

end Usage

end SymbolSearch.CommandLine
