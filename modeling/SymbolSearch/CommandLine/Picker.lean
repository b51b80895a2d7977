import SymbolSearch.Listing
import SymbolSearch.Session
import SymbolSearch.Text.ControlSequence

namespace SymbolSearch.CommandLine

/-- A session driven from the terminal: what has been printed, the listing shown last, and the items
opened. -/
structure Picker where
  session : Session
  printed : String
  shown : List Item
  opened : List Item

/-- How a line typed at the prompt ends: the picker goes on, is done, or breaks down. -/
inductive Verdict
  | goOn
  | done
  | broken (reason : Failure)

/-- What can happen while the picker waits at its prompt: a line is typed, the rescan lands, or time
passes and the files, and what the search tool makes of them, change. -/
inductive Moment
  | typed (line : String)
  | landed
  | passed (now : Int) (tool : SearchTool) (files : FileTree)

/-- What a line typed at the prompt means: to quit, to open a number, or to filter. -/
inductive Answer
  | quit
  | number (digits : String)
  | filter (value : String)
deriving Repr, DecidableEq

/-- Reads a line without the blanks around it. -/
def Answer.read (line : String) : Answer :=
  let command := Text.strip line
  if command == ":q" || command == ":quit" then .quit
  else
    match command.toList with
    | ':' :: d :: rest =>
        if (d :: rest).all Text.isDigitLike then .number (String.ofList (d :: rest))
        else .filter command
    | _ => .filter command

namespace Picker

/-- Nothing printed yet. -/
def start (session : Session) : Picker :=
  ⟨session, "", [], []⟩

/-- Prints a text without control sequences and ends the line. -/
def echo (p : Picker) (text : String) : Picker :=
  { p with printed := p.printed ++ Text.withoutControlSequences text ++ "\n" }

/-- What is asked for each line. -/
def prompt : String := "  filter, :N to open, :q to quit: "

/-- Asks for a line. -/
def ask (p : Picker) : Picker :=
  { p with printed := p.printed ++ prompt }

/-- Shows a line that is typed. -/
def hear (p : Picker) (line : String) : Picker :=
  { p with printed := p.printed ++ line ++ "\n" }

/-- The items of the session that fit on the screen, and the listing of them. -/
def listing (d : Desk) (columns : Int) (p : Picker) : Except Failure (List Item × String) := do
  let visible ← p.session.visible d.config
  let style : Listing.Style :=
    ⟨columns, true, .int 1, .int p.session.items.length, p.session.isBusy⟩
  return (visible, ← Listing.console d.files style visible)

/-- Shows the items of the session that fit on the screen. -/
def render (d : Desk) (columns : Int) (p : Picker) : Picker × Verdict :=
  match p.listing d columns with
  | .ok (visible, text) => ({ p.echo text with shown := visible }, .goOn)
  | .error reason => (p, .broken reason)

/-- Lets the rescan land while the picker waits; a list that is swapped in is shown. -/
def land (columns : Int) (p : Picker) : StateM Desk (Picker × Verdict) := do
  let s ← p.session.land
  let swapped := p.session.updates < s.updates
  let p := { p with session := s }
  match s.failure? with
  | some reason => return (p, .broken reason)
  | none =>
      if swapped then
        return (p.echo "\n  Scan finished, list refreshed.").render (← get) columns
      else return (p, .goOn)

/-- Ends the session. -/
def close (p : Picker) : Picker :=
  { p with session := p.session.close }

/-- Opens an item. -/
def openItem (p : Picker) (item : Item) : StateM Desk (Picker × Verdict) := do
  match ← (Session.accept item).run with
  | .error reason => return (p, .broken reason)
  | .ok _ => return ({ p.echo item.location with opened := p.opened ++ [item] }, .done)

/-- Opens the item with a number of the listing. A digit without a decimal value is no number. -/
def openNumber (p : Picker) (digits : String) : StateM Desk (Picker × Verdict) := do
  match p.session.visible (← get).config, Config.readInteger digits with
  | .error reason, _ => return (p, .broken reason)
  | _, .error reason => return (p, .broken (.variable reason))
  | .ok visible, .ok n =>
      match if n < 1 then none else visible[(n - 1).toNat]? with
      | none => return (p.echo ("  No item " ++ digits ++ "."), .goOn)
      | some item => p.openItem item

/-- Filters the session and shows the result. -/
def filter (columns : Int) (p : Picker) (value : Json) : StateM Desk (Picker × Verdict) := do
  match ← (p.session.narrow value).run with
  | .error reason => return (p, .broken reason)
  | .ok s => return { p with session := s }.render (← get) columns

/-- Acts on a typed line. -/
def answer (columns : Int) (p : Picker) (line : String) : StateM Desk (Picker × Verdict) :=
  match Answer.read line with
  | .quit => return (p.echo "  Stopped.", .done)
  | .number digits => p.openNumber digits
  | .filter value => p.filter columns (.string value)

/-- What a moment does. A typed line is acted on, and another one is asked for. The rescan lands in
the background: when its list cannot be shown, the picker goes on with what it has. -/
def experience (columns : Int) (p : Picker) : Moment → StateM Desk (Picker × Verdict)
  | .typed line => do
      match ← (p.hear line).answer columns line with
      | (p, .goOn) => return (p.ask, .goOn)
      | ended => return ended
  | .landed => do
      let (p, _) ← p.land columns
      return (p, .goOn)
  | .passed now tool files => do
      modify fun d => { d with now := now, tool := tool, files := files }
      return (p, .goOn)

/-- Goes through some moments until the picker is done. -/
def spend (columns : Int) (p : Picker) : List Moment → StateM Desk (Picker × Verdict)
  | [] => return (p, .goOn)
  | moment :: rest => do
      match ← p.experience columns moment with
      | (p, .goOn) => p.spend columns rest
      | ended => return ended

/-- Asks for lines until the picker is done or nothing more is to come. However it ends, the session
is closed. -/
def run (columns : Int) (p : Picker) (moments : List Moment) : StateM Desk (Picker × Verdict) := do
  match ← p.ask.spend columns moments with
  | (p, .goOn) => return ((p.echo "\n  Stopped.").close, .done)
  | (p, verdict) => return (p.close, verdict)

/-- Applies a first filter and shows the list, unless it has just been shown. -/
def present (columns : Int) (p : Picker) (query : Json) (shown : Bool) :
    StateM Desk (Picker × Verdict) := do
  if query.isGiven then p.filter columns query
  else if shown then return (p, .goOn)
  else return p.render (← get) columns

/-- Opens the session and waits for a first list when there is none; then presents the list. -/
def begin (columns : Int) (p : Picker) (query : Json) : StateM Desk (Picker × Verdict) := do
  match ← p.session.start.run with
  | .error reason => return (p, .broken reason)
  | .ok s =>
      let p := { p with session := s }
      if s.phase == .loading then
        match ← (p.echo "  Scanning…").land columns with
        | (p, .goOn) => p.present columns query true
        | ended => return ended
      else p.present columns query false

/-- A whole interactive search. -/
def interact (columns : Int) (session : Session) (query : Json) (moments : List Moment) :
    StateM Desk (Picker × Verdict) := do
  let (p, verdict) ← (start session).begin columns query
  match verdict with
  | .goOn => p.run columns moments
  | _ => return (p, verdict)

end Picker

end SymbolSearch.CommandLine
