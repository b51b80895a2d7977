import SymbolSearch.Proofs.PickedItems
import SymbolSearch.Proofs.ReadNumbers
import SymbolSearch.Proofs.SessionView

namespace SymbolSearch.Proofs.TypedLines

open Blending
open CommandLine
open DeskActions
open NumberedListings
open PickedItems
open PickerScreens
open PublishedOrder
open ReadNumbers
open Rescans
open SessionSteps
open SessionView
open Text

section Digits

open Decimal

variable {cs : List Char} {c : Char} {digits : String}

/-- Digits that stand for no number: one of them has no decimal value, or they are too many. -/
def Unreadable (digits : String) : Prop :=
  (∃ c ∈ digits.toList, isDecimal c = false) ∨ maxDigits < digits.toList.length

instance (digits : String) : Decidable (Unreadable digits) :=
  decidable_of_iff (digits.toList.all isDecimal = false ∨ maxDigits < digits.toList.length)
    (by simp [Unreadable])

end Digits

section Lines

variable {d₀ d d' d₁ : Desk} {root line digits : String} {columns : Int} {p p' p₀ : Picker}
  {v : Verdict} {moment : Moment} {moments : List Moment} {kind query : Json}

/-- A line that asks for a number whose digits cannot be read. -/
def Breaks (line : String) : Prop :=
  ∃ digits, Answer.read line = .number digits ∧ Unreadable digits

instance (line : String) : Decidable (Breaks line) :=
  match h : Answer.read line with
  | .number digits =>
      decidable_of_iff (Unreadable digits)
        ⟨fun hdigits => ⟨digits, h, hdigits⟩,
          fun ⟨_, hread, hdigits⟩ => Answer.number.inj (h.symm.trans hread) ▸ hdigits⟩
  | .quit => isFalse fun ⟨_, hread, _⟩ => nomatch h.symm.trans hread
  | .filter _ => isFalse fun ⟨_, hread, _⟩ => nomatch h.symm.trans hread

/-- A picker that waits at its prompt, and whose whole list can be shown. -/
structure Poised (d₀ : Desk) (root : String) (p : Picker) (d : Desk) : Prop where
  waits : Open d₀ root p d
  shows : Shows d.config p
  base : ∀ i ∈ p.session.base, Showable i

theorem Poised.ask (h : Poised d₀ root p d) : Poised d₀ root p.ask d :=
  ⟨h.waits.ask, h.shows.ask, h.base⟩

theorem Poised.hear (h : Poised d₀ root p d) (line : String) : Poised d₀ root (p.hear line) d :=
  ⟨h.waits.hear line, h.shows.hear line, h.base⟩

/-- How some moments leave a picker: it waits at its prompt, is done, or breaks at a typed line. -/
inductive Leaves (d₀ : Desk) (root : String) (moments : List Moment) (p : Picker) (d : Desk) :
    Verdict → Prop
  | waiting (h : Poised d₀ root p d) : Leaves d₀ root moments p d .goOn
  | done : Leaves d₀ root moments p d .done
  | broken {line : String} (hmem : .typed line ∈ moments) (hline : Breaks line)
      (reason : VariableError) : Leaves d₀ root moments p d (.broken (.variable reason))

section Sample

theorem blendable_sample : Blendable sampleDesk.config :=
  ClientSearch.blendable_sample "a.js:1:1:class A\n"

/-- A circled digit is a digit, but has no decimal value: it breaks the picker. -/
theorem circled_digit_breaks_picker :
    Answer.read ":③" = .number "③" ∧
      ∃ reason, ((Picker.interact 80 (Session.new (.string "all") "/") .null
        [.typed ":③", .typed ":q"]).run sampleDesk).1.2 = .broken reason :=
  ⟨by decide +kernel, exists_broken_iff.mpr (by decide +kernel)⟩

end Sample

end Lines

end SymbolSearch.Proofs.TypedLines
