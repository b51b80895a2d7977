import SymbolSearch.Proofs.ClientSearch

namespace SymbolSearch.Proofs.LineOrder

open Blending
open ClientSearch
open DeskActions
open OutputLines
open Rescoring
open Scanning

/-- The same client with another tool. -/
def withTool (c : Client) (tool : SearchTool) : Client :=
  { c with desk := { c.desk with tool := tool } }

variable {c : Client} {q : SearchTerms} {refresh : Bool} {tool : SearchTool}

/-- A search that scans gives the same answer whatever order the lines of each call come in. It has
one as soon as there is a directory to search, somebody to do it and a text to look for. -/
theorem search_eq_of_lines_reordered
    (hcold : ∀ root, rootOf c.desk.files q.root = .ok root → Cold c q root refresh)
    (hlines : ∀ root, rootOf c.desk.files q.root = .ok root →
      Interchangeable c.desk.extractor root c.desk.tool tool q.kind)
    (hcompare : ScanCompares c q) :
    ((Client.search q refresh).run.run c).1 =
        ((Client.search q refresh).run.run (withTool c tool)).1 ∧
      ((∃ root, rootOf c.desk.files q.root = .ok root) → IsSelector q.kind →
        (∃ text, q.query = .string text) → IsLimit q.maxResults → Staffed c.desk.config.workers →
        Blendable c.desk.config →
        ∃ found, ((Client.search q refresh).run.run c).1 = .ok found) := by
  cases hroot : rootOf c.desk.files q.root with
  | error failure =>
      have hroot' : rootOf (withTool c tool).desk.files q.root = .error failure := hroot
      refine ⟨by rw [search_no_root hroot, search_no_root hroot'], ?_⟩
      rintro ⟨root, hdirectory⟩
      cases hdirectory
  | ok root =>
      have hcold' : Cold (withTool c tool) q root refresh := hcold root hroot
      have hroot' : rootOf (withTool c tool).desk.files q.root = .ok root := hroot
      rcases extract_perm c.desk.extractor root (hlines root hroot) with
        ⟨failure, hscan, hscan'⟩ | ⟨scan, scan', hscan, hscan', hperm, -⟩
      · refine ⟨by rw [search_no_scan hroot (hcold root hroot) hscan,
          search_no_scan hroot' hcold' hscan'], ?_⟩
        rintro - hkind - - hworkers -
        obtain ⟨scan, hok⟩ := extract_ok c.desk.extractor root hworkers c.desk.tool hkind
        rw [hok] at hscan
        cases hscan
      · have hscored := hcompare root scan hroot hscan
        have hfresh : freshAt c.desk (itemsOf root scan.occurrences) =
            freshAt c.desk (itemsOf root scan'.occurrences) :=
          refreshed_eq_of_perm hscored.comparable (hperm.map _)
            (nodup_identity_itemsOf root (nodup_key_extract _ root hscan))
        have hscored' : ComparesAt (withTool c tool).desk (itemsOf root scan'.occurrences) :=
          ⟨hscored.readable, fun i hi => hscored.comparable i ((hperm.map _).mem_iff.mpr hi)⟩
        rw [search_cold hroot (hcold root hroot) hscan hscored.rescoresAt]
        refine ⟨?_, ?_⟩
        · rw [search_cold hroot' hcold' hscan' hscored'.rescoresAt, hfresh]
          rfl
        · rintro - - ⟨text, htext⟩ hlimit - hblend
          exact answer_ok hblend (scored_refreshed _ _ _ _) htext hlimit

/-- Two classes are found in one order and in the other. -/
theorem search_eq_of_lines_reordered_sample :
    let c := sampleClient sampleOutput
    let tool := (sampleClient "b.js:2:1:class B\na.js:1:1:class A\n").desk.tool
    ((Client.search (sampleTerms "a") false).run.run c).1 =
        ((Client.search (sampleTerms "a") false).run.run (withTool c tool)).1 ∧
      ∃ found, ((Client.search (sampleTerms "a") false).run.run c).1 = .ok found := by
  intro c tool
  have hroot {root : String} (h : rootOf c.desk.files (.string "/") = .ok root) : root = "/" :=
    (Except.ok.inj (rootOf_sample.symm.trans h)).symm
  have hcold : ∀ root, rootOf c.desk.files (sampleTerms "a").root = .ok root →
      Cold c (sampleTerms "a") root false :=
    fun _ _ => .inr (OrderedMap.get?_nil _)
  have hlines : Interchangeable c.desk.extractor "/" c.desk.tool tool (.string "all") :=
    ⟨fun _ _ => .finished [] [] 0 (by unfold Reordered; decide +kernel), by decide +kernel⟩
  obtain ⟨heq, hanswer⟩ := search_eq_of_lines_reordered hcold (fun _ h => hroot h ▸ hlines)
    (scanCompares_sample "a")
  exact ⟨heq, hanswer ⟨"/", rootOf_sample⟩ (isSelector_string "all") ⟨"a", rfl⟩ (.inl rfl)
    ⟨4, rfl, by decide⟩ (blendable_sample sampleOutput)⟩

end SymbolSearch.Proofs.LineOrder
