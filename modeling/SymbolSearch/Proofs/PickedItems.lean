import SymbolSearch.Proofs.PickerScreens

namespace SymbolSearch.Proofs.PickedItems

open CommandLine
open DeskActions
open NumberedListings
open PickerScreens

section Answers

variable {d₀ d d' : Desk} {root : String} {columns : Int} {p p' : Picker} {v : Verdict}

end Answers

section Moments

variable {d₀ d d' : Desk} {root : String} {columns : Int} {p p' : Picker} {v : Verdict}
  {moment : Moment} {moments later : List Moment}

section Numbers

variable {line digits : String} {n : Int}

end Numbers

end Moments

/-- A picker that waits at its prompt, after some moments, shows what it opens: the listing that
stands last on the screen is that of the items it lets open, and nothing has been recorded yet. -/
structure Waits (d₀ : Desk) (columns : Int) (p₀ : Picker) (d₁ : Desk) (moments : List Moment)
    (p : Picker) (d : Desk) : Prop where
  visible : p.session.visible d.config = .ok p.shown
  screen : Screen p.printed p.shown
  opened : p.opened = []
  untouched : Untouched d₀ d
  /-- A number of the listing ends the run: its item is located, and that access is the only one. -/
  opens {line digits : String} {i : Nat} {item : Item} (hline : Answer.read line = .number digits)
    (hnumber : Config.readInteger digits = .ok (i + 1)) (hitem : p.shown[i]? = some item)
    (later : List Moment) :
    (p₀.run columns (moments ++ .typed line :: later)).run d₁ =
        (({ (p.hear line).echo item.location with opened := [item] }.close, .done),
          recorded d item.path (some item.symbol)) ∧
      RecordedOnce d₀ item (recorded d item.path (some item.symbol))
  /-- Any other number is reported, and the picker goes on. -/
  reports {line digits : String} {n : Int} (hline : Answer.read line = .number digits)
    (hnumber : Config.readInteger digits = .ok n)
    (hmissing : ∀ i : Nat, n = i + 1 → p.shown[i]? = none) :
    (p₀.ask.spend columns (moments ++ [.typed line])).run d₁ =
      ((((p.hear line).echo ("  No item " ++ digits ++ ".")).ask, .goOn), d)
  /-- Digits that make no number end the run, with nothing recorded. -/
  breaks {line digits : String} {reason : VariableError}
    (hline : Answer.read line = .number digits)
    (hnumber : Config.readInteger digits = .error reason) (later : List Moment) :
    (p₀.run columns (moments ++ .typed line :: later)).run d₁ =
      (((p.hear line).close, .broken (.variable reason)), d)

variable {d₀ d₁ : Desk} {root : String} {columns : Int} {p₀ : Picker} {kind query : Json}
  {moments : List Moment}

section Sample

/-- A desk where a class is to be found of which the cached list does not know yet. -/
def sampleDesk : Desk :=
  { (ClientSearch.sampleClient "a.js:1:1:class A\n").desk with cache := .adopt [("all::/", [])] }

theorem exists_broken_iff {v : Verdict} :
    (∃ reason, v = .broken reason) ↔ (v matches .goOn | .done) = false := by
  cases v <;> simp

/-- A digit that has no decimal value stands for no number: it breaks the picker down. -/
theorem superscript_breaks_picker :
    ∃ reason, ((Picker.interact 80 (Session.new (.string "all") "/") .null
      [.typed ":²", .typed ":q"]).run sampleDesk).1.2 = .broken reason :=
  exists_broken_iff.mpr (by decide +kernel)

end Sample

end SymbolSearch.Proofs.PickedItems
