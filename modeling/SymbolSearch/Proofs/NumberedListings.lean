import SymbolSearch.Listing
import SymbolSearch.Proofs.ListSources
import SymbolSearch.Proofs.OccurrenceOrigins
import SymbolSearch.Proofs.PathResolution

namespace SymbolSearch.Proofs.NumberedListings

open ItemOrder
open Listing
open ListSources
open OccurrenceOrigins
open Rescans
open Rescoring
open SessionSteps
open Text
open Traversal

section Numbers

/-- The first line of an item in a listing: its number, its symbol and kind, and its score. -/
def headline (number : Nat) (score : String) (item : Item) : String :=
  "  " ++ padLeft 3 (Decimal.integerText number) ++ ". " ++ padRight 32 item.symbol ++ " " ++
    padRight 10 item.kind.name ++ " " ++ padLeft 6 score

/-- The second line of an item in a listing: its location. -/
def placeLine (item : Item) : String :=
  "       " ++ item.location

/-- A text lists items in order, each with its number, counted from one, and its location. -/
def Lists (text : String) (items : List Item) : Prop :=
  ∃ (header footer : List String) (entries : List (List String)),
    text = String.intercalate "\n" (header ++ entries.flatten ++ footer) ∧
      entries.length = items.length ∧
      ∀ i item, items[i]? = some item → ∃ score preview,
        entries[i]? = some (headline (i + 1) score item :: placeLine item :: preview)

variable {files : FileTree} {style : Style} {items : List Item} {text : String}

theorem numberText_eq (h : style.firstNumber = .int 1) (offset : Nat) :
    numberText style offset = .ok (Decimal.integerText ((offset + 1 : Nat) : Int)) := by
  rw [numberText, h]
  change Except.ok (Decimal.integerText (1 + (offset : Int))) = _
  rw [Int.add_comm]
  rfl

theorem entry_eq_ok (h : style.firstNumber = .int 1) {offset : Nat} {item : Item}
    {lines : List String} (hentry : entry files style offset item = .ok lines) :
    ∃ score preview, lines = headline (offset + 1) score item :: placeLine item :: preview := by
  rw [entry, numberText_eq h] at hentry
  obtain ⟨number, hnumber, hentry⟩ := bind_eq_ok_iff.mp hentry
  cases hnumber
  obtain ⟨score, -, hentry⟩ := bind_eq_ok_iff.mp hentry
  split at hentry
  · cases hentry
    exact ⟨score, [], rfl⟩
  · obtain ⟨line, -, hentry⟩ := bind_eq_ok_iff.mp hentry
    cases hentry
    exact ⟨score, _, rfl⟩

theorem lists_console (h : style.firstNumber = .int 1)
    (hconsole : console files style items = .ok text) : Lists text items := by
  rw [console] at hconsole
  split at hconsole
  · rename_i hempty
    cases hconsole
    obtain rfl := List.isEmpty_iff.mp hempty
    exact ⟨["\n  " ++ emptyMessage ++ "\n"], [], [], rfl, rfl, by simp⟩
  · obtain ⟨entries, hentries, hconsole⟩ := bind_eq_ok_iff.mp hconsole
    cases hconsole
    have htraversed := forall₂_of_mapM hentries
    refine ⟨_, _, entries, rfl, by simpa using htraversed.length_eq.symm, ?_⟩
    intro i item hitem
    obtain ⟨hi, rfl⟩ := List.getElem?_eq_some_iff.mp hitem
    have hplaced : i < items.zipIdx.length := by simpa using hi
    have hlisted : i < entries.length := htraversed.length_eq ▸ hplaced
    have hentry := htraversed.get hplaced hlisted
    simp only [List.get_eq_getElem, List.getElem_zipIdx, Nat.zero_add] at hentry
    obtain ⟨score, preview, hlines⟩ := entry_eq_ok h hentry
    exact ⟨score, preview, List.getElem?_eq_some_iff.mpr ⟨hlisted, hlines⟩⟩

end Numbers

section Names

/-- The character that no name of a file holds. -/
def null : Char := Char.ofNat 0

/-- A search tool that prints no null characters: it takes a file with such for a binary one, and
passes over it. -/
def PrintsNoNull (tool : SearchTool) : Prop :=
  ∀ call output errors status, tool call = .finished output errors status →
    null ∉ Utf8.decode output

variable {x : Extractor} {tool : SearchTool} {root : String}

end Names

section Showing

/-- An item that can be shown: its score is a double, and its path can be that of a file. -/
structure Showable (item : Item) : Prop where
  score : ∃ x, item.score = .real x
  path : null ∉ item.path.toList

variable {files : FileTree} {style : Style} {items : List Item}

end Showing

end SymbolSearch.Proofs.NumberedListings
