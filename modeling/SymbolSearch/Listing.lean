import SymbolSearch.FileTree
import SymbolSearch.Item
import SymbolSearch.Signature
import SymbolSearch.Text.Blank
import SymbolSearch.TextMatch

namespace SymbolSearch.Listing

/-- What is shown when there are no symbols. -/
def emptyMessage : String := "No symbols found."

/-- A path with forward slashes only and without control characters, except line ends and tabs. -/
def sanitize (s : String) : String :=
  String.ofList
    ((s.toList.map fun c => if c == '\\' then '/' else c).filter fun c =>
      (32 ≤ c.toNat && c.toNat != 127) || c == '\n' || c == '\r' || c == '\t')

/-- How a list is shown on the console. The number of the first item and the total may be values of
any type; without a total the items are counted. -/
structure Style where
  columns : Int
  preview : Bool
  firstNumber : Json
  total : Json
  busy : Bool

/-- A list of items on its own, on a console of the given width. -/
def Style.plain (columns : Int) : Style :=
  ⟨columns, true, .int 1, .null, false⟩

/-- The options of a list, with what they are when nothing is said. -/
def Style.signature : Signature :=
  ⟨[], [("show_preview", .bool true), ("start_index", .int 1), ("total_count", .null),
    ("busy", .bool false)]⟩

/-- The style that options ask for. -/
def Style.ofOptions (columns : Int) (options : Arguments) : Except Failure Style := do
  let given ← Style.signature.complete options
  return ⟨columns, (given.value "show_preview").isGiven, given.value "start_index",
    given.value "total_count", (given.value "busy").isGiven⟩

/-- The width of a line across the console: at most 78, also where the width is not known. -/
def ruleWidth (columns : Int) : Nat :=
  if columns ≤ 0 then 78 else min columns.toNat 78

/-- A line across the console. -/
def rule (columns : Int) : String :=
  String.ofList (List.replicate (ruleWidth columns) '─')

/-- A noun in the plural unless there is one of its kind. -/
def plural (one : Bool) (noun : String) : String :=
  noun ++ if one then "" else "s"

/-- A count of something with its noun. -/
def counted (n : Int) (noun : String) : String :=
  Decimal.integerText n ++ " " ++ plural (n == 1) noun

/-- Whether a value equals one. -/
def isOne : Json → Bool
  | .int n => n == 1
  | .real x => x == 1
  | .bool b => b
  | _ => false

/-- A score with one decimal place. -/
def scoreText (score : Number) : Except ArithmeticError String := do
  return Decimal.fixedText 1 ((← score.toFloat?).getD Decimal.notANumber)

/-- The number of an item behind the first one. -/
def numberText (style : Style) (offset : Nat) : Except ArithmeticError String := do
  let number ← Operand.add (.ofJson style.firstNumber) (.ofNumber (.int offset))
  return (number.number?.map Number.text).getD ""

/-- The lines of one item: its number, symbol, kind and score, its location, and the source line. -/
def entry (files : FileTree) (style : Style) (offset : Nat) (item : Item) :
    Except Failure (List String) := do
  let number ← (numberText style offset).mapError .arithmetic
  let score ← (scoreText item.score).mapError .arithmetic
  let head :=
    "  " ++ Text.padLeft 3 number ++ ". " ++ Text.padRight 32 item.symbol ++ " " ++
      Text.padRight 10 item.kind.name ++ " " ++ Text.padLeft 6 score
  let place := "       " ++ item.location
  if !style.preview then return [head, place]
  let preview := Text.strip (← (files.sourceLine item.path item.line).mapError .path)
  return [head, place] ++ if preview == "" then [] else ["       │ " ++ preview]

/-- A numbered list of items. -/
def console (files : FileTree) (style : Style) (items : List Item) : Except Failure String :=
  if items.isEmpty then .ok ("\n  " ++ emptyMessage ++ "\n")
  else do
    let total :=
      match style.total with
      | .null => .int items.length
      | total => total
    let header :=
      "  SYMJUMP — " ++ total.display ++ " " ++ plural (isOne total) "symbol" ++
        if style.busy then " (refreshing…)" else ""
    let line := rule style.columns
    let body ← items.zipIdx.mapM fun (item, offset) => entry files style offset item
    return String.intercalate "\n" (["\n" ++ line, header, line] ++ body.flatten ++ [line])

/-- A score rounded to two decimal places. -/
def roundedScore (score : Number) : Json :=
  match score.round 2 with
  | .ok rounded => .ofNumber rounded
  | .error _ => .null

/-- An item in a structured list: its score is rounded and its paths are sanitized. -/
def itemJson (item : Item) : Json :=
  .object
    [("symbol", .string item.symbol), ("file", .string (sanitize item.file)),
      ("line", .int item.line), ("start_column", .int item.startColumn),
      ("end_column", .int item.endColumn), ("kind", .string item.kind.name),
      ("score", roundedScore item.score), ("root", .string (sanitize item.root)),
      ("path", .string (sanitize item.path)), ("language", .string (languageOf item.file))]

/-- A structured list of items. A score that is not finite cannot be written. -/
def json (items : List Item) : Except Json.Obstacle String :=
  Json.render true (Json.Layout.indented 2) (.array (items.map itemJson))

/-- One line for each item: location, symbol and kind. -/
def compact (items : List Item) : String :=
  if items.isEmpty then emptyMessage
  else
    String.intercalate "\n" (items.map fun item =>
      item.location ++ "  " ++ item.symbol ++ "  [" ++ item.kind.name ++ "]")

/-- A place as editors make it clickable: path, line and column. -/
def clickable (path : String) (line column : Int) : String :=
  path ++ "(" ++ Decimal.integerText line ++ "," ++ Decimal.integerText column ++ ")"

/-- One line for each item: clickable place, symbol and kind. -/
def editor (items : List Item) : String :=
  if items.isEmpty then emptyMessage
  else
    String.intercalate "\n" (items.map fun item =>
      clickable item.path item.line item.startColumn ++ ": " ++ item.symbol ++ " [" ++
        item.kind.name ++ "]")

/-- The forms that a list can be shown in. -/
inductive Form
  | console
  | json
  | compact
  | editor
deriving Repr, DecidableEq

/-- The form with the given name; an unknown name stands for the console. -/
def Form.ofName (name : String) : Form :=
  match name with
  | "json" => .json
  | "compact" => .compact
  | "ide" => .editor
  | _ => .console

/-- A list of items in a form. -/
def items (files : FileTree) (style : Style) (form : Form) (list : List Item) :
    Except Failure String :=
  match form with
  | .console => console files style list
  | .json => (json list).mapError .json
  | .compact => .ok (compact list)
  | .editor => .ok (editor list)

/-- A text match in a structured list. -/
def matchJson (m : TextMatch) : Json :=
  .object
    [("file_path", .string (sanitize m.path)), ("line", .int m.line), ("column", .int m.column),
      ("text", .string m.text)]

/-- A list of text matches in a form. Lines and columns are shown counting from one, except in the
structured form. -/
def textMatches (form : Form) (list : List TextMatch) : String :=
  match form with
  | .json => Json.page (.array (list.map matchJson))
  | _ =>
      if list.isEmpty then "No matches found."
      else
        String.intercalate "\n" (list.map fun m =>
          let place :=
            if form == .editor then clickable m.path (m.line + 1) (m.column + 1)
            else
              m.path ++ ":" ++ Decimal.integerText (m.line + 1) ++ ":" ++
                Decimal.integerText (m.column + 1)
          place ++ ": " ++ Text.strip m.text)

end SymbolSearch.Listing
