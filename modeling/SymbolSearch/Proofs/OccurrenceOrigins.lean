import SymbolSearch.Proofs.FoundSymbols
import SymbolSearch.Proofs.Scanning

namespace SymbolSearch.Proofs.OccurrenceOrigins

open Deduplication FoundSymbols OutputLines Records Scanning

theorem mem_of_mem_foldl_prefer {occurrences : List Occurrence} {earlier : Option Occurrence}
    {o : Occurrence} (h : o ∈ occurrences.foldl prefer earlier) :
    o ∈ earlier ∨ o ∈ occurrences := by
  induction occurrences generalizing earlier with
  | nil => exact .inl h
  | cons head rest ih =>
      rcases ih h with hkept | hrest
      · have hprefer : o = head ∨ o ∈ earlier := by
          cases earlier with
          | none => exact .inl (Option.some.inj hkept).symm
          | some other =>
              simp only [prefer] at hkept
              split at hkept
              · exact .inl (Option.some.inj hkept).symm
              · exact .inr hkept
        rcases hprefer with rfl | hearlier
        · exact .inr List.mem_cons_self
        · exact .inl hearlier
      · exact .inr (List.mem_cons_of_mem _ hrest)

theorem mem_of_mem_deduplicate {occurrences : List Occurrence} {o : Occurrence}
    (h : o ∈ Occurrence.deduplicate occurrences) : o ∈ occurrences := by
  obtain ⟨⟨key, kept⟩, hentry, rfl⟩ := List.mem_map.mp h
  have hnodup : (OrderedMap.keys (occurrences.foldl Occurrence.keep [])).Nodup :=
    nodup_keys_foldl_keep occurrences List.nodup_nil
  have hget := (OrderedMap.get?_eq_some_iff hnodup).mpr hentry
  rw [get?_foldl_keep] at hget
  rcases mem_of_mem_foldl_prefer hget with hnone | hmem
  · cases hnone
  · exact List.mem_of_mem_filter hmem

theorem parse_of_mem_occurrencesOn {rule : Rule} {pattern : Pattern} {lines : List String}
    {o : Occurrence} (h : o ∈ occurrencesOn rule pattern lines) :
    ∃ line ∈ lines, Occurrence.parse rule pattern line = .ok (some o) := by
  by_cases hreadable : ∀ line ∈ lines, ∃ found, Occurrence.parse rule pattern line = .ok found
  · rw [occurrencesOn_of_readable hreadable] at h
    obtain ⟨line, hline, ho⟩ := List.mem_filterMap.mp h
    obtain ⟨found, hfound⟩ := hreadable line hline
    rw [occurrenceOf?, hfound] at ho
    exact ⟨line, hline, hfound.trans (congrArg Except.ok ho)⟩
  · rw [occurrencesOn_of_unreadable hreadable] at h
    cases h

section Calls

variable {x : Extractor} {tool : SearchTool} {root : String}

theorem output_of_mem_search {call : Invocation} {lines : List String} {line : String}
    (h : x.ripgrep.search tool call = .ok lines) (hline : line ∈ lines) :
    ∃ output errors status, tool call = .finished output errors status ∧
      line.toList ∈ Text.lines (Text.Utf8.decode output) := by
  cases hcall : tool call with
  | finished output errors status =>
      refine ⟨output, errors, status, rfl, ?_⟩
      rw [search_finished x.ripgrep hcall] at h
      split at h
      · cases h
      · obtain rfl := Except.ok.inj h
        cases hline
      · obtain rfl := Except.ok.inj h
        obtain ⟨cs, hcs, rfl⟩ := List.mem_map.mp hline
        rw [String.toList_ofList]
        exact List.mem_of_mem_filter hcs
  | missing | timedOut | notStarted reason =>
      simp only [Ripgrep.search, Ripgrep.run, hcall] at h
      obtain rfl := Except.ok.inj h
      cases hline

/-- Where an occurrence comes from: from a line of the output of the call for one pattern of a rule,
in whose text the pattern finds it. -/
def ComesFrom (x : Extractor) (tool : SearchTool) (root : String) (rule : Rule)
    (o : Occurrence) : Prop :=
  ∃ source ∈ rule.patterns, ∃ pattern, Pattern.compile source = .ok pattern ∧
    ∃ output errors status,
      tool (x.invocation root ⟨rule, source⟩) = .finished output errors status ∧
      ∃ line ∈ Text.lines (Text.Utf8.decode output), ∃ record, Layout line record ∧
        o.file = Record.normalizePath record.path ∧ o.line = record.line ∧
          WellFormed rule pattern record.text.toList o

theorem comesFrom_of_mem_result {rule : Rule} {source : String} {o : Occurrence}
    (hsource : source ∈ rule.patterns) (h : o ∈ x.result tool root ⟨rule, source⟩) :
    ComesFrom x tool root rule o := by
  rw [result_eq] at h
  split at h
  · rename_i lines pattern hsearch hcompile
    obtain ⟨line, hline, hparse⟩ := parse_of_mem_occurrencesOn h
    obtain ⟨output, errors, status, hcall, hmem⟩ := output_of_mem_search hsearch hline
    obtain ⟨record, hread, hfile, hnumber, hwellFormed⟩ := wellFormed_of_parse hparse
    exact ⟨source, hsource, pattern, hcompile, output, errors, status, hcall, line.toList, hmem,
      record, layout_of_read (lineFeed_not_mem_lines hmem) hread, hfile, hnumber, hwellFormed⟩
  · cases h

theorem mem_result_of_mem_extract {selector : Json} {scan : Scan}
    (h : x.extract tool selector root = .ok scan) {o : Occurrence} (ho : o ∈ scan.occurrences) :
    ∃ rules, x.rulesFor selector = .ok rules ∧ ∃ rule ∈ rules, ∃ source ∈ rule.patterns,
      o ∈ x.result tool root ⟨rule, source⟩ := by
  rw [extract_eq] at h
  cases hrules : x.rulesFor selector with
  | error failure =>
      rw [hrules] at h
      cases h
  | ok rules =>
      refine ⟨rules, rfl, ?_⟩
      rw [hrules, Except.bind] at h
      split at h
      · obtain rfl := Except.ok.inj h
        cases ho
      · cases hworkers : x.checkWorkers with
        | error failure =>
            rw [hworkers] at h
            cases h
        | ok _ =>
            rw [hworkers] at h
            obtain rfl := Except.ok.inj h
            obtain ⟨⟨rule, source⟩, hjob, hresult⟩ :=
              List.mem_flatMap.mp (mem_of_mem_deduplicate ho)
            obtain ⟨rule', hrule, hmap⟩ := List.mem_flatMap.mp hjob
            obtain ⟨source', hsource, heq⟩ := List.mem_map.mp hmap
            cases heq
            exact ⟨rule, hrule, source, hsource, hresult⟩

end Calls

section Sample

/-- A rule with groups that need not match, and groups that match reserved words. -/
def sampleRule : Rule where
  name := "class"
  patterns := ["(export )?(class|enum) ([A-Z]+)( \\()?"]
  globs := ["*.js"]
  kind := .classDecl
  ignored := ["B"]

/-- The sample has no other rule. -/
def sampleExtractor : Extractor :=
  ⟨Ripgrep.ofConfig (Config.defaults "/home"), Catalog.ofRules [sampleRule], .int 2⟩

/-- Three lines: a class, a class that is ignored, and no record at all. -/
def sampleTool : SearchTool := fun _ =>
  .finished "./a.js:3:1:export class A\na.js:4:1:class B\nclass C\n".toUTF8.toList [] 0

end Sample

end SymbolSearch.Proofs.OccurrenceOrigins
