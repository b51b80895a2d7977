import SymbolSearch.Proofs.ClientSearch

namespace SymbolSearch.Proofs.CachedSearch

open Blending
open ClientSearch
open DeskActions
open Rescoring
open Scanning

/-- What may happen to a client between two searches without touching its lists. -/
inductive Interlude
  | recordAccess (file symbol : Json)
  | clearRecency
  | accept (item : Item)
  | setClock (now : Int)
  | setTool (tool : SearchTool)

/-- A client after something has happened, whether that succeeded or not. -/
def Interlude.apply (c : Client) : Interlude → Client
  | .recordAccess file symbol => ((Client.recordAccess file symbol).run.run c).2
  | .clearRecency => ((Client.atDesk Desk.clearRecency).run.run c).2
  | .accept item => ((Client.atDesk (Session.accept item)).run.run c).2
  | .setClock now => { c with desk := { c.desk with now := now } }
  | .setTool tool => { c with desk := { c.desk with tool := tool } }

/-- A client after a run of such events. -/
def after (c : Client) (events : List Interlude) : Client :=
  events.foldl Interlude.apply c

/-- Two clients have the same settings, rules, files and lists. -/
structure SameLists (c c' : Client) : Prop where
  config : c'.desk.config = c.desk.config
  catalog : c'.desk.catalog = c.desk.catalog
  files : c'.desk.files = c.desk.files
  cache : c'.desk.cache = c.desk.cache

theorem SameLists.refl (c : Client) : SameLists c c :=
  ⟨rfl, rfl, rfl, rfl⟩

theorem SameLists.trans {c₁ c₂ c₃ : Client} (h : SameLists c₁ c₂) (h' : SameLists c₂ c₃) :
    SameLists c₁ c₃ :=
  ⟨h'.config.trans h.config, h'.catalog.trans h.catalog, h'.files.trans h.files,
    h'.cache.trans h.cache⟩

theorem sameLists_record (c : Client) (file : String) (symbol : Option String) :
    SameLists c ((Client.atDesk (Desk.record file symbol)).run.run c).2 := by
  rw [atDesk_run (record_run file symbol c.desk)]
  exact ⟨rfl, rfl, rfl, rfl⟩

theorem sameLists_apply (c : Client) (event : Interlude) : SameLists c (event.apply c) := by
  cases event with
  | recordAccess file symbol =>
      have hfile := resolveFile_run file c
      rw [Interlude.apply, Client.recordAccess]
      cases hpath : pathOf c.desk.files file with
      | error failure =>
          rw [hpath] at hfile
          rw [run_bind_error hfile]
          exact .refl c
      | ok path =>
          rw [hpath] at hfile
          rw [run_bind_ok hfile]
          exact sameLists_record c path _
  | clearRecency => exact ⟨rfl, rfl, rfl, rfl⟩
  | accept item => exact sameLists_record c item.path (some item.symbol)
  | setClock now => exact ⟨rfl, rfl, rfl, rfl⟩
  | setTool tool => exact ⟨rfl, rfl, rfl, rfl⟩

theorem sameLists_after (c : Client) (events : List Interlude) : SameLists c (after c events) := by
  induction events generalizing c with
  | nil => exact .refl c
  | cons event events ih => exact (sameLists_apply c event).trans (ih (event.apply c))

/-- A search scans: its root is a directory, no list is served from the cache, and the scan gets as
far as a list of scored items. Whether that list can then be ranked is left open. -/
structure Scans (c : Client) (q : SearchTerms) (refresh : Bool) (root : String) (scan : Scan) :
    Prop where
  resolved : rootOf c.desk.files q.root = .ok root
  cold : Cold c q root refresh
  extracted : c.desk.extractor.extract c.desk.tool q.kind root = .ok scan
  scored : RescoresAt c.desk (itemsOf root scan.occurrences)

/-- A client after a search. -/
def searched (c : Client) (q : SearchTerms) (refresh : Bool) : Client :=
  ((Client.search q refresh).run.run c).2

theorem current_modify (slot : CacheSlot) (f : Cache → Cache) :
    (slot.modify f).current = f slot.current := by
  obtain ⟨given, own⟩ := slot
  cases own <;> rfl

variable {c : Client} {q : SearchTerms} {refresh : Bool} {root : String} {scan : Scan}

theorem Scans.searched_eq (h : Scans c q refresh root scan) :
    searched c q refresh =
      ⟨kept (called c.desk scan.invocations) (Cache.key q.kind root)
        (freshAt c.desk (itemsOf root scan.occurrences)), c.background⟩ := by
  rw [searched, search_cold h.resolved h.cold h.extracted h.scored]

theorem Scans.get?_searched (h : Scans c q refresh root scan) :
    OrderedMap.get? (Cache.key q.kind root) (searched c q refresh).desk.cache.current =
      some (freshAt c.desk (itemsOf root scan.occurrences)) := by
  rw [h.searched_eq]
  change OrderedMap.get? _ (c.desk.cache.modify _).current = _
  rw [current_modify, OrderedMap.get?_insert, if_pos rfl]

/-- A search with a cached list and a fresh search give the same answer, however accesses, clock
and tool have changed since the scan, as long as the calls of that scan still end as they did. Both
rank the list that a scan of the moment makes; a text always has an answer. -/
theorem search_cached_eq_search_fresh (hscans : Scans c q refresh root scan)
    (events : List Interlude) {c' : Client} (hrun : c' = after (searched c q refresh) events)
    (htool : ∀ call ∈ scan.invocations, c'.desk.tool call = c.desk.tool call)
    (hcompare : ComparesAt c'.desk (itemsOf root scan.occurrences))
    (query maxResults : Json) :
    let q' : SearchTerms := ⟨query, q.kind, q.root, maxResults⟩
    ((Client.search q' false).run.run c').1 = ((Client.search q' true).run.run c').1 ∧
      ((Client.search q' true).run.run c').1 =
        answer c.desk.config (freshAt c'.desk (itemsOf root scan.occurrences)) q' ∧
      (Blendable c.desk.config → (∃ text, query = .string text) → IsLimit maxResults →
        ∃ found, ((Client.search q' false).run.run c').1 = .ok found) := by
  intro q'
  have hsame : SameLists (searched c q refresh) c' := hrun ▸ sameLists_after _ events
  have hconfig : c'.desk.config = c.desk.config := by rw [hsame.config, hscans.searched_eq]; rfl
  have hcatalog : c'.desk.catalog = c.desk.catalog := by
    rw [hsame.catalog, hscans.searched_eq]; rfl
  have hfiles : c'.desk.files = c.desk.files := by rw [hsame.files, hscans.searched_eq]; rfl
  have hroot : rootOf c'.desk.files q'.root = .ok root := by rw [hfiles]; exact hscans.resolved
  have hcached : OrderedMap.get? (Cache.key q'.kind root) c'.desk.cache.current =
      some (freshAt c.desk (itemsOf root scan.occurrences)) := by
    rw [hsame.cache]
    exact hscans.get?_searched
  have hextracted : c'.desk.extractor.extract c'.desk.tool q'.kind root = .ok scan := by
    have hextractor : c'.desk.extractor = c.desk.extractor := by
      rw [Desk.extractor, hconfig, hcatalog, Desk.extractor]
    rw [hextractor]
    exact extract_congr _ root hscans.extracted htool
  have hstale : ComparesAt c'.desk (freshAt c.desk (itemsOf root scan.occurrences)) :=
    ⟨hcompare.readable, hcompare.comparable.refreshed _ _ _⟩
  -- The cached list differs from the scanned one by its order and its scores only.
  have hfresh : freshAt c'.desk (freshAt c.desk (itemsOf root scan.occurrences)) =
      freshAt c'.desk (itemsOf root scan.occurrences) :=
    refreshed_refreshed hcompare.comparable
      (nodup_identity_itemsOf root (nodup_key_extract _ root hscans.extracted)) _ _ _
  have hwarm := search_warm hstale.rescoresAt hroot hcached
  rw [hfresh, hconfig] at hwarm
  have hcold := search_cold hroot (.inl rfl : Cold c' q' root true) hextracted
    hcompare.rescoresAt
  rw [hconfig] at hcold
  refine ⟨by rw [hwarm, hcold], by rw [hcold], ?_⟩
  rintro hblend ⟨text, htext⟩ hlimit
  rw [hwarm]
  exact answer_ok hblend (scored_refreshed _ _ _ _) htext hlimit

/-- The second of two classes is accepted between the scan and a search for its name. -/
theorem search_cached_eq_search_fresh_sample :
    let c := sampleClient sampleOutput
    let c' := after (searched c (sampleTerms "") false)
      [.setClock 5, .accept (Item.ofOccurrence ⟨"B", "b.js", 2, 7, 7, .classDecl⟩ "/"),
        .setTool c.desk.tool]
    ((Client.search (sampleTerms "b") false).run.run c').1 =
        ((Client.search (sampleTerms "b") true).run.run c').1 ∧
      ∃ found, ((Client.search (sampleTerms "b") false).run.run c').1 = .ok found := by
  intro c c'
  obtain ⟨scan, hscan, hfound⟩ := extract_sample
  have hscored : ComparesAt c.desk (itemsOf "/" scan.occurrences) := by
    rw [hfound]
    decide +kernel
  have hscans : Scans c (sampleTerms "") false "/" scan :=
    ⟨rootOf_sample, .inr rfl, hscan, hscored.rescoresAt⟩
  have hcompare : ComparesAt c'.desk (itemsOf "/" scan.occurrences) := by
    rw [hfound]
    decide +kernel
  obtain ⟨heq, -, hanswer⟩ := search_cached_eq_search_fresh hscans _ rfl (fun _ _ => rfl) hcompare
    (.string "b") .null
  refine ⟨heq, hanswer ?_ ⟨"b", rfl⟩ (.inl rfl)⟩
  exact blendable_sample sampleOutput

end SymbolSearch.Proofs.CachedSearch
