import SymbolSearch.Proofs.ClientSearch
import SymbolSearch.Proofs.SessionSteps

namespace SymbolSearch.Proofs.StaleSearch

open Blending
open ClientSearch
open DeskActions
open Rescoring
open Scanning
open SessionSteps

variable {c : Client} {q : SearchTerms} {root : String} {s : Session}

theorem narrow_run (hs : s.phase ≠ .closed) {value : Json} (hvalue : value.isGiven = true)
    (d : Desk) :
    (s.narrow value).run.run d =
      ((Ranking.rank d.config s.base value).map fun items =>
        { s with filter := value, items := items }, d) := by
  have hphase : (s.phase == .closed) = false := by simpa using hs
  have hset : s.setFilter value = .ok { s with filter := value } := by
    rw [Session.setFilter, hphase, hvalue]
    rfl
  have hshown : shown d.config { s with filter := value } s.base =
      Ranking.rank d.config s.base value := by
    rw [shown, if_pos hvalue]
  rw [Session.narrow, hset]
  refine (run_bind_ok (give_run _ d)).trans ?_
  rw [applyFilter_run, hshown]

/-- The last part of a stale search: what a session shows for the query, up to the limit. -/
def answerFrom (q : SearchTerms) (s : Session) : ClientAction (List Item) := do
  let s ← if q.query.isGiven then Client.atDesk (s.narrow q.query) else pure s
  Client.give (Argument.limited q.maxResults s.items)

theorem desk_narrow (s : Session) (value : Json) (d : Desk) :
    ((s.narrow value).run.run d).2 = d := by
  have hset := give_run (s.setFilter value) d
  rw [Session.narrow]
  cases hresult : s.setFilter value with
  | error failure =>
      rw [hresult] at hset
      rw [run_bind_error hset]
  | ok s' =>
      rw [hresult] at hset
      rw [run_bind_ok hset, applyFilter_run]

theorem client_answerFrom (q : SearchTerms) (s : Session) (c : Client) :
    ((answerFrom q s).run.run c).2 = c := by
  rw [answerFrom]
  split
  · have hdesk := desk_narrow s q.query c.desk
    rcases hrun : (s.narrow q.query).run.run c.desk with ⟨result, d⟩
    rw [hrun] at hdesk
    obtain rfl : d = c.desk := hdesk
    cases result with
    | error failure => rw [run_bind_error (atDesk_run hrun)]
    | ok s' => rw [run_bind_ok (atDesk_run hrun), ClientSearch.give_run]
  · exact congrArg Prod.snd (ClientSearch.give_run (Argument.limited q.maxResults s.items) c)

theorem answerFrom_run (hs : s.phase ≠ .closed) (hitems : s.items = s.base)
    (hsorted : Item.sort s.base = s.base) (c : Client) :
    (answerFrom q s).run.run c = (answer c.desk.config s.base q, c) := by
  rw [answerFrom, answer]
  cases hgiven : q.query.isGiven with
  | false =>
      have hrank : Ranking.rank c.desk.config s.base q.query = .ok s.base := by
        rw [Ranking.rank, hgiven, hsorted]
        rfl
      rw [hrank, ← hitems]
      exact ClientSearch.give_run _ c
  | true =>
      have hnarrow := atDesk_run (narrow_run hs hgiven c.desk)
      cases hrank : Ranking.rank c.desk.config s.base q.query with
      | error failure =>
          rw [hrank] at hnarrow
          exact run_bind_error hnarrow
      | ok ranked =>
          rw [hrank] at hnarrow
          refine (run_bind_ok hnarrow).trans ?_
          exact ClientSearch.give_run _ c

theorem land_run {s' : Session} {d : Desk} (hland : s.land.run c.desk = (s', d)) :
    (Client.land s).run.run c = (.ok s', { c with desk := d }) := by
  rw [Client.land, run_get_bind, hland]
  rfl

theorem await_run {s' : Session} {d : Desk} (hland : s.land.run c.desk = (s', d))
    (hrescan : s'.failure? = none) :
    (Client.await s).run.run c = (.ok s', { c with desk := d }) := by
  rw [Client.await, run_bind_ok (land_run hland), hrescan]
  rfl

theorem await_run_error {s' : Session} {d : Desk} (hland : s.land.run c.desk = (s', d))
    {reason : Failure} (hrescan : s'.failure? = some reason) :
    (Client.await s).run.run c = (.error reason, { c with desk := d }) := by
  rw [Client.await, run_bind_ok (land_run hland), hrescan]
  rfl

theorem land_unfiltered {d : Desk} {scan : Scan} (hrescan : s.rescan = .pending)
    (hopen : s.phase ≠ .closed) (hfilter : s.filter.isGiven = false)
    (hscan : d.extractor.extract d.tool s.kind s.root = .ok scan)
    (hscored : RescoresAt d (itemsOf s.root scan.occurrences)) :
    s.land.run d =
      (published s (freshAt d (itemsOf s.root scan.occurrences))
          (freshAt d (itemsOf s.root scan.occurrences)),
        kept (called d scan.invocations) s.key
          (freshAt d (itemsOf s.root scan.occurrences))) := by
  refine landWith_extracted hrescan (extract_run_ok hscan) (hscored.called _) ?_
  apply publish_open hopen
  rw [shown, hfilter]
  rfl

theorem await_answerFrom_run {scan : Scan} (hrescan : s.rescan = .pending)
    (hopen : s.phase ≠ .closed) (hfilter : s.filter.isGiven = false)
    (hscan : c.desk.extractor.extract c.desk.tool s.kind s.root = .ok scan)
    (hcompare : ComparesAt c.desk (itemsOf s.root scan.occurrences)) :
    (Client.await s >>= answerFrom q).run.run c =
      (answer c.desk.config (freshAt c.desk (itemsOf s.root scan.occurrences)) q,
        ⟨kept (called c.desk scan.invocations) s.key
          (freshAt c.desk (itemsOf s.root scan.occurrences)), c.background⟩) := by
  have hland := land_unfiltered hrescan hopen hfilter hscan hcompare.rescoresAt
  rw [run_bind_ok (await_run hland rfl), answerFrom_run (by simp [published]) rfl]
  · rfl
  · exact sort_refreshed hcompare.comparable

theorem searchStale_no_root {failure : Failure}
    (hroot : rootOf c.desk.files q.root = .error failure) (waitFresh : Bool) :
    (Client.searchStale q waitFresh).run.run c = (.error failure, c) :=
  run_bind_error (resolveRoot_run hroot)

section Start

variable {d : Desk} (waitFresh : Bool)

theorem searchStale_wait (hroot : rootOf c.desk.files q.root = .ok root)
    (hstart : (Session.new q.kind root).start.run.run c.desk = (.ok s, d))
    (hwait : (waitFresh || s.phase == .loading) = true) :
    (Client.searchStale q waitFresh).run.run c =
      (Client.await s >>= answerFrom q).run.run { c with desk := d } := by
  rw [Client.searchStale, run_bind_ok (resolveRoot_run hroot)]
  refine (run_bind_ok (atDesk_run hstart)).trans ?_
  simp only [hwait, if_true]
  rfl

theorem searchStale_go (hroot : rootOf c.desk.files q.root = .ok root)
    (hstart : (Session.new q.kind root).start.run.run c.desk = (.ok s, d))
    (hwait : (waitFresh || s.phase == .loading) = false) :
    (Client.searchStale q waitFresh).run.run c =
      (answerFrom q s).run.run ⟨d, c.background ++ [s.close]⟩ := by
  rw [Client.searchStale, run_bind_ok (resolveRoot_run hroot)]
  refine (run_bind_ok (atDesk_run hstart)).trans ?_
  simp only [hwait, Bool.false_eq_true, if_false]
  rfl

end Start

/-- Below a directory both searches answer from one list. -/
theorem agree_of_root (hroot : rootOf c.desk.files q.root = .ok root) (hkind : IsSelector q.kind)
    (hworkers : Staffed c.desk.config.workers) (hcached : CacheCompares c q)
    (hscanned : ScanCompares c q) (fresh : Bool) :
    ∃ items, Scored items ∧
      ((Client.search q fresh).run.run c).1 = answer c.desk.config items q ∧
      ((Client.searchStale q fresh).run.run c).1 = answer c.desk.config items q ∧
      (Cold c q root fresh →
        ((Client.search q fresh).run.run c).2.desk.cache =
            ((Client.searchStale q fresh).run.run c).2.desk.cache ∧
          ((Client.searchStale q fresh).run.run c).2.background = c.background) := by
  obtain ⟨scan, hscan⟩ := extract_ok c.desk.extractor root hworkers c.desk.tool hkind
  have hcompare := hscanned root scan hroot hscan
  cases hlookup : OrderedMap.get? (Cache.key q.kind root) c.desk.cache.current with
  | none =>
      have hstart := start_uncached (s := Session.new q.kind root) rfl hlookup
      have hstale := searchStale_wait fresh hroot hstart (Bool.or_true fresh)
      rw [await_answerFrom_run rfl (by simp [opened]) rfl hscan hcompare] at hstale
      rw [search_cold hroot (.inr hlookup) hscan hcompare.rescoresAt, hstale]
      exact ⟨_, scored_refreshed _ _ _ _, rfl, rfl, fun _ => ⟨rfl, rfl⟩⟩
  | some items =>
      have hitems := hcached root items hroot hlookup
      have hstart := start_cached (s := Session.new q.kind root) rfl hlookup hitems.rescoresAt
      cases fresh with
      | true =>
          have hstale := searchStale_wait true hroot hstart rfl
          rw [await_answerFrom_run rfl (by simp [opened]) rfl hscan hcompare.tracked] at hstale
          -- The stale list has been rescored in vain; all it leaves is the loaded accesses.
          have hfresh := freshAt_tracked hcompare.readable (itemsOf root scan.occurrences)
          rw [search_cold hroot (.inl rfl) hscan hcompare.rescoresAt, hstale]
          refine ⟨_, scored_refreshed _ _ _ _, rfl, ?_, fun _ => ⟨?_, rfl⟩⟩
          · exact congrArg (fun items => answer c.desk.config items q) hfresh
          · exact congrArg (fun items => c.desk.cache.modify (OrderedMap.insert _ items))
              hfresh.symm
      | false =>
          have hstale := searchStale_go false hroot hstart rfl
          rw [answerFrom_run (by simp [opened]) rfl (sort_refreshed hitems.comparable)] at hstale
          rw [search_warm hitems.rescoresAt hroot hlookup, hstale]
          refine ⟨_, scored_refreshed _ _ _ _, rfl, rfl, ?_⟩
          intro hcold
          have hmiss := hcold.resolve_left (by decide)
          rw [hlookup] at hmiss
          cases hmiss

/-- A search and a stale search from one state, with nothing in the background, give the same
answer. Where a root cannot be resolved, or is no directory, both say so; otherwise a text has an
answer. A search that has to scan leaves the same lists behind as a stale search that waits for its
scan, and nothing in the background. -/
theorem search_eq_searchStale (hbackground : c.background = []) (hkind : IsSelector q.kind)
    (hworkers : Staffed c.desk.config.workers) (hcached : CacheCompares c q)
    (hscanned : ScanCompares c q) (fresh : Bool) :
    let searched := (Client.search q fresh).run.run c
    let stale := (Client.searchStale q fresh).run.run c
    searched.1 = stale.1 ∧
      (∀ failure, pathOf c.desk.files q.root = .error failure → searched.1 = .error failure) ∧
      (∀ path error, pathOf c.desk.files q.root = .ok path →
        c.desk.files.isDirectory path = .error error → searched.1 = .error (.path error)) ∧
      (∀ path, pathOf c.desk.files q.root = .ok path → c.desk.files.isDirectory path = .ok false →
        searched.1 = .error (.noWorkspace path)) ∧
      (∀ path, pathOf c.desk.files q.root = .ok path → c.desk.files.isDirectory path = .ok true →
        Blendable c.desk.config → (∃ text, q.query = .string text) → IsLimit q.maxResults →
        ∃ found, searched.1 = .ok found) ∧
      ((∀ root, rootOf c.desk.files q.root = .ok root → Cold c q root fresh) →
        searched.2.desk.cache = stale.2.desk.cache ∧ stale.2.background = []) := by
  intro searched stale
  have hno (failure : Failure) (hroot : rootOf c.desk.files q.root = .error failure) :
      searched = (.error failure, c) ∧ stale = (.error failure, c) :=
    ⟨search_no_root hroot fresh, searchStale_no_root hroot fresh⟩
  cases hpath : pathOf c.desk.files q.root with
  | error failure =>
      obtain ⟨hsearched, hstale⟩ := hno failure (by rw [rootOf, hpath]; rfl)
      rw [hsearched, hstale]
      refine ⟨rfl, ?_, by simp, by simp, by simp, fun _ => ⟨rfl, hbackground⟩⟩
      rintro failure' ⟨⟩
      rfl
  | ok path =>
      cases hdirectory : c.desk.files.isDirectory path with
      | error error =>
          obtain ⟨hsearched, hstale⟩ := hno (.path error)
            (by simp [rootOf, hpath, Except.bind, hdirectory])
          rw [hsearched, hstale]
          refine ⟨rfl, by simp, ?_, by simp [hdirectory], by simp [hdirectory],
            fun _ => ⟨rfl, hbackground⟩⟩
          rintro path' error' ⟨⟩ herror
          obtain rfl := Except.error.inj (hdirectory.symm.trans herror)
          rfl
      | ok isDirectory =>
      cases isDirectory with
      | false =>
          obtain ⟨hsearched, hstale⟩ := hno (.noWorkspace path)
            (by simp [rootOf, hpath, Except.bind, hdirectory])
          rw [hsearched, hstale]
          refine ⟨rfl, by simp, ?_, ?_, by simp [hdirectory], fun _ => ⟨rfl, hbackground⟩⟩
          · rintro path' error' ⟨⟩ herror
            cases hdirectory.symm.trans herror
          · rintro path' ⟨⟩ -
            rfl
      | true =>
          have hroot : rootOf c.desk.files q.root = .ok path := by
            simp [rootOf, hpath, Except.bind, hdirectory]
          obtain ⟨items, hscored, hsearched, hstale, hcold⟩ :=
            agree_of_root hroot hkind hworkers hcached hscanned fresh
          refine ⟨hsearched.trans hstale.symm, by simp, ?_, by simp [hdirectory], ?_, ?_⟩
          · rintro path' error' ⟨⟩ herror
            cases hdirectory.symm.trans herror
          · rintro - - - hblend ⟨text, htext⟩ hlimit
            rw [hsearched]
            exact answer_ok hblend hscored htext hlimit
          · intro hmiss
            rw [← hbackground]
            exact hcold (hmiss path hroot)

/-- A first search for one of two classes. -/
theorem search_eq_searchStale_sample :
    let searched := (Client.search (sampleTerms "a") false).run.run (sampleClient sampleOutput)
    let stale := (Client.searchStale (sampleTerms "a") false).run.run (sampleClient sampleOutput)
    searched.1 = stale.1 ∧ (∃ found, searched.1 = .ok found) ∧
      searched.2.desk.cache = stale.2.desk.cache ∧ stale.2.background = [] := by
  intro searched stale
  have hcached : CacheCompares (sampleClient sampleOutput) (sampleTerms "a") := by
    intro root items _ hlookup
    cases hlookup
  have hpath : pathOf sampleFiles (.string "/") = .ok "/" := by
    rfl
  have hdirectory : sampleFiles.isDirectory "/" = .ok true := by
    decide +kernel
  obtain ⟨hsame, -, -, -, hfound, hlists⟩ := search_eq_searchStale (c := sampleClient sampleOutput)
    (q := sampleTerms "a") rfl (isSelector_string "all") ⟨4, rfl, by decide⟩ hcached
    (scanCompares_sample "a") false
  exact ⟨hsame, hfound "/" hpath hdirectory (blendable_sample sampleOutput) ⟨"a", rfl⟩ (.inl rfl),
    hlists fun _ _ => .inr (OrderedMap.get?_nil _)⟩

/-- Below the home of an unknown user neither search has a list or complains of a missing
directory, though nothing is pending and nothing goes wrong with scores. -/
theorem search_unknown_home :
    let c := sampleClient sampleOutput
    let q : SearchTerms := { sampleTerms "a" with root := .string "~nosuchuser" }
    c.background = [] ∧ IsSelector q.kind ∧ Staffed c.desk.config.workers ∧ CacheCompares c q ∧
      ScanCompares c q ∧
      ¬((∃ found, ((Client.search q false).run.run c).1 = .ok found ∧
            ((Client.searchStale q false).run.run c).1 = .ok found) ∨
          (∃ path, ((Client.search q false).run.run c).1 = .error (.noWorkspace path)) ∧
            ∃ path, ((Client.searchStale q false).run.run c).1 = .error (.noWorkspace path)) := by
  intro c q
  have hresolve : sampleFiles.resolve "~nosuchuser" = .error .unknownHome := by
    decide +kernel
  have hroot : rootOf c.desk.files q.root = .error (.path .unknownHome) := by
    have hpath : pathOf sampleFiles (.string "~nosuchuser") = .error (.path .unknownHome) := by
      rw [pathOf, Argument.path, Except.bind, hresolve]
    exact congrArg (Except.bind · _) hpath
  refine ⟨rfl, isSelector_string "all", ⟨4, rfl, by decide⟩, ?_, ?_, ?_⟩
  · intro root items h
    rw [hroot] at h
    cases h
  · intro root scan h
    rw [hroot] at h
    cases h
  · rw [search_no_root hroot]
    simp

end SymbolSearch.Proofs.StaleSearch
