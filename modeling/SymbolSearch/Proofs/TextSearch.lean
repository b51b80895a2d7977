import Mathlib.Data.List.Nodup
import Mathlib.Data.Prod.Lex
import Mathlib.Data.String.Basic
import Mathlib.Order.Compare
import SymbolSearch.Proofs.RecordGrammar
import SymbolSearch.TextMatch

namespace SymbolSearch.Proofs.TextSearch

open OutputLines
open Records
open Traversal
open WrittenRecords

variable {rg : Ripgrep} {tool tool' : SearchTool} {term root line : String}
  {lines lines' : List String} {found : List TextMatch} {limit : Int}

section Order

/-- What matches are ordered by. -/
def place (m : TextMatch) : String ×ₗ Int ×ₗ Int :=
  toLex (m.path, toLex (m.line, m.column))

/-- Matches in the order of their places. -/
def InOrder (found : List TextMatch) : Prop :=
  found.Pairwise fun a b => place a ≤ place b

end Order

section Lines

/-- The match on a line of an output, when the line is a record. -/
def matchOn (term root line : String) : Option TextMatch :=
  (Record.parse? line).map (TextMatch.ofRecord (Path.parse root) term)

theorem ofLines_eq (h : ∀ line ∈ lines, ¬IsOverlong line) :
    TextMatch.ofLines term root lines =
      .ok ((lines.filterMap (matchOn term root)).mergeSort TextMatch.atMost) := by
  have hread : lines.mapM Record.read = .ok (lines.map Record.parse?) :=
    mapM_ok fun line hline => read_of_not_isOverlong (h line hline)
  have hmatches : ((lines.map Record.parse?).filterMap id).map
      (TextMatch.ofRecord (Path.parse root) term) = lines.filterMap (matchOn term root) := by
    rw [List.filterMap_map, List.map_filterMap]
    rfl
  rw [TextMatch.ofLines, hread, ← hmatches]
  rfl

theorem ofLines_of_isOverlong (term root : String) (hline : line ∈ lines) (h : IsOverlong line) :
    ∃ error, TextMatch.ofLines term root lines = .error (.variable error) := by
  obtain ⟨count, hcount⟩ := read_of_isOverlong h
  obtain ⟨error, herror⟩ := mapM_error hline hcount
  refine ⟨error, ?_⟩
  rw [TextMatch.ofLines, herror]
  rfl

theorem search_eq_ofLines
    (h : rg.search tool (TextMatch.invocation rg (.string term) root) = .ok lines) :
    TextMatch.search rg tool (.string term) root = TextMatch.ofLines term root lines := by
  rw [TextMatch.search, h]
  rfl

theorem exists_search_iff
    (h : rg.search tool (TextMatch.invocation rg (.string term) root) = .ok lines) :
    (∃ found, TextMatch.search rg tool (.string term) root = .ok found) ↔
      ∀ line ∈ lines, ¬IsOverlong line := by
  rw [search_eq_ofLines h]
  constructor
  · rintro ⟨found, hfound⟩ line hline hlong
    obtain ⟨error, herror⟩ := ofLines_of_isOverlong term root hline hlong
    cases herror.symm.trans hfound
  · intro hall
    exact ⟨_, ofLines_eq hall⟩

theorem exists_lines_of_search
    (h : TextMatch.search rg tool (.string term) root = .ok found) :
    ∃ lines, rg.search tool (TextMatch.invocation rg (.string term) root) = .ok lines := by
  obtain ⟨lines, hlines, -⟩ := bind_eq_ok_iff.mp h
  cases hsearch : rg.search tool (TextMatch.invocation rg (.string term) root) with
  | error error =>
      rw [hsearch] at hlines
      cases hlines
  | ok lines => exact ⟨lines, rfl⟩

theorem eq_mergeSort_of_search
    (h : rg.search tool (TextMatch.invocation rg (.string term) root) = .ok lines)
    (hfound : TextMatch.search rg tool (.string term) root = .ok found) :
    found = (lines.filterMap (matchOn term root)).mergeSort TextMatch.atMost := by
  have hall := (exists_search_iff h).mp ⟨found, hfound⟩
  rw [search_eq_ofLines h, ofLines_eq hall] at hfound
  exact (Except.ok.inj hfound).symm

theorem exists_record_of_search {m : TextMatch}
    (h : TextMatch.search rg tool (.string term) root = .ok found) (hm : m ∈ found) :
    ∃ record, TextMatch.ofRecord (Path.parse root) term record = m := by
  obtain ⟨lines, hlines⟩ := exists_lines_of_search h
  rw [eq_mergeSort_of_search hlines h, List.mem_mergeSort] at hm
  obtain ⟨line, -, hmatch⟩ := List.mem_filterMap.mp hm
  obtain ⟨record, -, hrecord⟩ := Option.map_eq_some_iff.mp hmatch
  exact ⟨record, hrecord⟩

end Lines

section Samples

/-- A search tool that finds some lines wherever it is called. -/
def toolOf (lines : List String) : SearchTool :=
  fun _ => .finished (Utf8Text.encode (String.join (lines.map (· ++ "\n")))) [] 0

theorem search_toolOf {lines : List String} (hlimit : rg.maxOutput = .int limit)
    (hfits : (Utf8Text.encode (String.join (lines.map (· ++ "\n")))).length ≤ limit)
    (hlines : (filledLines (Utf8Text.encode (String.join (lines.map (· ++ "\n"))))).map
      String.ofList = lines) (call : Invocation) :
    rg.search (toolOf lines) call = .ok lines := by
  rw [Ripgrep.search, run_of_fits hlimit hfits rfl, hlines]

theorem search_line {record : Record}
    (h : rg.search tool (TextMatch.invocation rg (.string term) root) = .ok [line])
    (hread : Record.read line = .ok (some record)) :
    TextMatch.search rg tool (.string term) root =
      .ok [TextMatch.ofRecord (Path.parse root) term record] := by
  have hshort := not_isOverlong_of_read hread
  rw [read_of_not_isOverlong hshort] at hread
  have hmatch : [line].filterMap (matchOn term root) =
      [TextMatch.ofRecord (Path.parse root) term record] := by
    simp [matchOn, Except.ok.inj hread]
  rw [search_eq_ofLines h, ofLines_eq (by simpa using hshort), hmatch, List.mergeSort_singleton]

end Samples

end SymbolSearch.Proofs.TextSearch
