import SymbolSearch.Client
import SymbolSearch.Proofs.Blending
import SymbolSearch.Proofs.DeskActions
import SymbolSearch.Proofs.Scanning

namespace SymbolSearch.Proofs.ClientSearch

open Blending
open DeskActions
open Rescoring
open Scanning

variable {c : Client} {q : SearchTerms} {root : String}

theorem give_run {α : Type} (result : Except Failure α) (c : Client) :
    (Client.give result).run.run c = (result, c) := by
  cases result <;> rfl

theorem atDesk_run {α : Type} {action : Action α} {c : Client} {result : Except Failure α}
    {d : Desk} (h : action.run.run c.desk = (result, d)) :
    (Client.atDesk action).run.run c = (result, { c with desk := d }) := by
  rw [Client.atDesk, run_get_bind, h]
  cases result <;> rfl

/-- The absolute path that a value stands for. -/
def pathOf (files : FileTree) (value : Json) : Except Failure String :=
  (Argument.path value).bind fun path =>
    match files.resolve path with
    | .ok path => .ok path.text
    | .error error => .error (.path error)

/-- The directory that a search root stands for. -/
def rootOf (files : FileTree) (root : Json) : Except Failure String :=
  (pathOf files root).bind fun path =>
    match files.isDirectory path with
    | .ok true => .ok path
    | .ok false => .error (.noWorkspace path)
    | .error error => .error (.path error)

theorem resolveFile_run (file : Json) (c : Client) :
    (Client.resolveFile file).run.run c = (pathOf c.desk.files file, c) := by
  change (Client.give (Argument.path file) >>= fun path =>
    match c.desk.files.resolve path with
    | .ok path => return path.text
    | .error e => throw (.path e) : ClientAction String).run.run c = _
  rw [pathOf]
  cases Argument.path file with
  | error failure => rfl
  | ok path =>
      change (match c.desk.files.resolve path with
        | .ok path => return path.text
        | .error e => throw (.path e) : ClientAction String).run.run c = _
      cases hresolve : c.desk.files.resolve path <;> simp only [Except.bind, hresolve] <;> rfl

theorem resolveRoot_run {value : Json} {result : Except Failure String}
    (h : rootOf c.desk.files value = result) :
    (Client.resolveRoot value).run.run c = (result, c) := by
  have hfile := resolveFile_run value c
  rw [← h, Client.resolveRoot, rootOf]
  cases hpath : pathOf c.desk.files value with
  | error failure =>
      rw [hpath] at hfile
      exact run_bind_error hfile
  | ok path =>
      rw [hpath] at hfile
      rw [run_bind_ok hfile]
      change (match c.desk.files.isDirectory path with
        | .ok true => return path
        | .ok false => throw (.noWorkspace path)
        | .error e => throw (.path e) : ClientAction String).run.run c = _
      simp only [Except.bind]
      split <;> rfl

/-- What a search answers from a whole list. -/
def answer (config : Config) (items : List Item) (q : SearchTerms) : Except Failure (List Item) :=
  (Ranking.rank config items q.query).bind (Argument.limited q.maxResults)

/-- A bound on the number of results that makes sense: a whole number, or none at all. -/
def IsLimit (value : Json) : Prop :=
  value = .null ∨ ∃ n, value = .int n

theorem answer_ok {config : Config} {items : List Item} (h : Blendable config)
    (hitems : Scored items) {query : String} (hquery : q.query = .string query)
    (hlimit : IsLimit q.maxResults) : ∃ found, answer config items q = .ok found := by
  obtain ⟨ranked, hranked⟩ := rank_ok h hitems query
  rw [answer, hquery, hranked]
  rcases hlimit with hnull | ⟨n, hn⟩
  · exact ⟨ranked, by rw [hnull]; rfl⟩
  · simp only [Except.bind, Argument.limited, hn]
    split
    · exact ⟨_, rfl⟩
    · exact ⟨_, rfl⟩

theorem answer_run (items : List Item) (q : SearchTerms) (c : Client) :
    (do Client.give (Argument.limited q.maxResults (← Client.atDesk (Desk.rank items q.query))) :
      ClientAction (List Item)).run.run c = (answer c.desk.config items q, c) := by
  have hrank := atDesk_run (rank_run items q.query c.desk)
  rw [answer]
  cases hresult : Ranking.rank c.desk.config items q.query with
  | error failure =>
      rw [hresult] at hrank
      exact run_bind_error hrank
  | ok ranked =>
      rw [hresult] at hrank
      rw [run_bind_ok hrank, give_run]
      rfl

theorem cached_run (key : String) (c : Client) :
    (Client.atDesk (Desk.cached key)).run.run c =
      (.ok (OrderedMap.get? key c.desk.cache.current), c) :=
  atDesk_run rfl

theorem search_no_root {failure : Failure} (hroot : rootOf c.desk.files q.root = .error failure)
    (refresh : Bool) : (Client.search q refresh).run.run c = (.error failure, c) :=
  run_bind_error (resolveRoot_run hroot)

theorem search_warm {items : List Item} (h : RescoresAt c.desk items)
    (hroot : rootOf c.desk.files q.root = .ok root)
    (hcached : OrderedMap.get? (Cache.key q.kind root) c.desk.cache.current = some items) :
    (Client.search q false).run.run c =
      (answer c.desk.config (freshAt c.desk items) q, { c with desk := tracked c.desk }) := by
  rw [Client.search, run_bind_ok (resolveRoot_run hroot)]
  simp only [Bool.false_eq_true, if_false]
  rw [run_bind_ok (cached_run _ c), hcached]
  simp only
  rw [run_bind_ok (atDesk_run (rescore_run h)), answer_run]
  rfl

/-- The list of a kind and a root is not there to be used, or not wanted. -/
def Cold (c : Client) (q : SearchTerms) (root : String) (refresh : Bool) : Prop :=
  refresh = true ∨ OrderedMap.get? (Cache.key q.kind root) c.desk.cache.current = none

theorem cold_or_cached (c : Client) (q : SearchTerms) (root : String) (refresh : Bool) :
    Cold c q root refresh ∨ refresh = false ∧
      ∃ items, OrderedMap.get? (Cache.key q.kind root) c.desk.cache.current = some items := by
  by_cases hcold : Cold c q root refresh
  · exact .inl hcold
  · obtain ⟨hrefresh, hlookup⟩ := not_or.mp hcold
    exact .inr ⟨by simpa using hrefresh, Option.ne_none_iff_exists'.mp hlookup⟩

/-- Whatever a search may find by a scan has scores that can be compared. -/
def ScanCompares (c : Client) (q : SearchTerms) : Prop :=
  ∀ root scan, rootOf c.desk.files q.root = .ok root →
    c.desk.extractor.extract c.desk.tool q.kind root = .ok scan →
      ComparesAt c.desk (itemsOf root scan.occurrences)

/-- Whatever a search may find in the cache has scores that can be compared. -/
def CacheCompares (c : Client) (q : SearchTerms) : Prop :=
  ∀ root items, rootOf c.desk.files q.root = .ok root →
    OrderedMap.get? (Cache.key q.kind root) c.desk.cache.current = some items →
      ComparesAt c.desk items

/-- What a search does when it has no list to use. -/
def scanThenAnswer (q : SearchTerms) (root : String) : ClientAction (List Item) := do
  let occurrences ← Client.atDesk (Desk.extract q.kind root)
  let items ← Client.atDesk (Desk.build root occurrences)
  Client.atDesk (Desk.keep (Cache.key q.kind root) items)
  Client.give (Argument.limited q.maxResults (← Client.atDesk (Desk.rank items q.query)))

theorem search_eq_scanThenAnswer {refresh : Bool}
    (hroot : rootOf c.desk.files q.root = .ok root) (hcold : Cold c q root refresh) :
    (Client.search q refresh).run.run c = (scanThenAnswer q root).run.run c := by
  rw [Client.search, run_bind_ok (resolveRoot_run hroot)]
  cases refresh with
  | true => rfl
  | false =>
      have hmiss := hcold.resolve_left (by decide)
      simp only [Bool.false_eq_true, if_false]
      rw [run_bind_ok (cached_run _ c), hmiss]
      rfl

theorem search_cold {refresh : Bool} {scan : Scan}
    (hroot : rootOf c.desk.files q.root = .ok root) (hcold : Cold c q root refresh)
    (hscan : c.desk.extractor.extract c.desk.tool q.kind root = .ok scan)
    (hbuild : RescoresAt c.desk (itemsOf root scan.occurrences)) :
    (Client.search q refresh).run.run c =
      (answer c.desk.config (freshAt c.desk (itemsOf root scan.occurrences)) q,
        ⟨kept (called c.desk scan.invocations) (Cache.key q.kind root)
          (freshAt c.desk (itemsOf root scan.occurrences)), c.background⟩) := by
  have hextract := atDesk_run (extract_run_ok hscan)
  have hbuilt := @atDesk_run _ _ ⟨called c.desk scan.invocations, c.background⟩ _ _
    (build_run (hbuild.called scan.invocations))
  have hkept := @atDesk_run _ _ ⟨tracked (called c.desk scan.invocations), c.background⟩ _ _
    (keep_run (Cache.key q.kind root) (freshAt c.desk (itemsOf root scan.occurrences))
      (called c.desk scan.invocations))
  rw [search_eq_scanThenAnswer hroot hcold, scanThenAnswer, run_bind_ok hextract,
    run_bind_ok hbuilt]
  refine (run_bind_ok hkept).trans ?_
  rw [answer_run]
  rfl

theorem search_no_scan {refresh : Bool} {failure : Failure}
    (hroot : rootOf c.desk.files q.root = .ok root) (hcold : Cold c q root refresh)
    (hscan : c.desk.extractor.extract c.desk.tool q.kind root = .error failure) :
    (Client.search q refresh).run.run c = (.error failure, c) := by
  have hextract : (Desk.extract q.kind root).run.run c.desk = (.error failure, c.desk) := by
    rw [extract_run, hscan]
  rw [search_eq_scanThenAnswer hroot hcold, scanThenAnswer]
  exact run_bind_error (atDesk_run hextract)

section Sample

/-- A rule that finds classes. -/
def sampleRule : Rule where
  name := "classes"
  patterns := ["class (\\w+)"]
  globs := ["*.js"]
  kind := .classDecl

/-- Nothing but the root directory. -/
def sampleFiles : FileTree :=
  ⟨[], [], [], "/", "/", []⟩

/-- A client at the root directory with that rule, and a tool that gives one output to every
call. -/
def sampleClient (output : String) : Client where
  desk :=
    { config := Config.defaults "/"
      catalog := Catalog.ofRules [sampleRule]
      cache := .adopt []
      tracker := .fresh
      store := .empty
      now := 0
      tool := fun _ => .finished output.toUTF8.data.toList [] 0
      files := sampleFiles
      calls := [] }
  background := []

/-- A search for a name among all symbols below the root directory. -/
def sampleTerms (query : String) : SearchTerms :=
  ⟨.string query, .string "all", .string "/", .null⟩

/-- Two classes in two files. -/
def sampleOutput : String :=
  "a.js:1:1:class A\nb.js:2:1:class B\n"

def sampleOccurrences : List Occurrence :=
  [⟨"A", "a.js", 1, 7, 7, .classDecl⟩, ⟨"B", "b.js", 2, 7, 7, .classDecl⟩]

theorem rootOf_sample : rootOf sampleFiles (.string "/") = .ok "/" := by
  rfl

theorem extract_sample :
    ∃ scan, (sampleClient sampleOutput).desk.extractor.extract
        (sampleClient sampleOutput).desk.tool (.string "all") "/" = .ok scan ∧
      scan.occurrences = sampleOccurrences := by
  have hfound : ((sampleClient sampleOutput).desk.extractor.extract
      (sampleClient sampleOutput).desk.tool (.string "all") "/").toOption.map (·.occurrences) =
      some sampleOccurrences := by
    decide +kernel
  obtain ⟨scan, hscan⟩ := extract_ok (sampleClient sampleOutput).desk.extractor "/"
    ⟨4, rfl, by decide⟩ (sampleClient sampleOutput).desk.tool (isSelector_string "all")
  rw [hscan] at hfound
  exact ⟨scan, hscan, Option.some.inj hfound⟩

theorem scanCompares_sample (query : String) :
    ScanCompares (sampleClient sampleOutput) (sampleTerms query) := by
  intro root scan hroot hscan
  obtain rfl : "/" = root := Except.ok.inj (rootOf_sample.symm.trans hroot)
  obtain ⟨scan', hscan', hfound⟩ := extract_sample
  obtain rfl : scan = scan' := Except.ok.inj (hscan.symm.trans hscan')
  rw [hfound]
  decide +kernel

theorem blendable_sample (output : String) : Blendable (sampleClient output).desk.config :=
  ⟨⟨_, _, _, rfl, rfl⟩, ⟨_, _, _, rfl, rfl⟩, ⟨_, _, _, rfl, rfl⟩⟩

end Sample

end SymbolSearch.Proofs.ClientSearch
