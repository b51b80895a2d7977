import SymbolSearch.Proofs.CachedSearch
import SymbolSearch.Proofs.SessionLifecycle
import SymbolSearch.Proofs.Rescans
import SymbolSearch.Proofs.StaleSearch

namespace SymbolSearch.Proofs.CacheHistory

open CachedSearch
open ClientSearch
open DeskActions
open PoolSteps
open Rescans
open Rescoring
open SessionSteps
open StaleSearch

/-- A client, and sessions that share its desk. -/
structure Workplace where
  client : Client
  members : OrderedMap String Member

/-- What can happen at a workplace: something to a session, a search of either kind, the landing of
a rescan that a search has left in the background, or a change of what searches depend on. -/
inductive Activity
  | session (event : SessionEvent)
  | search (q : SearchTerms) (refresh : Bool)
  | searchStale (q : SearchTerms) (waitFresh : Bool)
  | landBackground (index : Nat)
  | clearRecency
  | setWorld (tool : SearchTool) (files : FileTree) (catalog : Catalog)

namespace Workplace

/-- The sessions of a workplace at their desk. -/
def pool (w : Workplace) : SessionPool :=
  ⟨w.client.desk, w.members⟩

/-- A workplace after something has happened, whether that succeeded or not. -/
def step (w : Workplace) : Activity → Workplace
  | .session event =>
      let p := (w.pool.step event).2
      ⟨{ w.client with desk := p.desk }, p.members⟩
  | .search q refresh => { w with client := ((Client.search q refresh).run.run w.client).2 }
  | .searchStale q waitFresh =>
      { w with client := ((Client.searchStale q waitFresh).run.run w.client).2 }
  | .landBackground index =>
      match w.client.background[index]? with
      | none => w
      | some s =>
          { w with
            client := ⟨(s.land.run w.client.desk).2, w.client.background.eraseIdx index⟩ }
  | .clearRecency => { w with client := ((Client.atDesk Desk.clearRecency).run.run w.client).2 }
  | .setWorld tool files catalog =>
      { w with
        client :=
          { w.client with
            desk := { w.client.desk with tool := tool, files := files, catalog := catalog } } }

/-- A workplace after some activities. -/
def run (w : Workplace) (activities : List Activity) : Workplace :=
  activities.foldl step w

/-- The cached list of a key. -/
def entry (w : Workplace) (key : String) : Option (List Item) :=
  OrderedMap.get? key w.client.desk.cache.current

end Workplace

/-- A stale search waits for the rescan of its session: nothing is cached, or a fresh list is asked
for and the session can be opened on the cached one. -/
def Awaits (c : Client) (q : SearchTerms) (root : String) (waitFresh : Bool) : Prop :=
  ∀ items, OrderedMap.get? (Cache.key q.kind root) c.desk.cache.current = some items →
    waitFresh = true ∧ RescoresAt c.desk items

/-- An activity brings a whole list for a key: the rescan of a session lands, open or closed, or a
search scans. The list is that of a scan at this very moment, with the scores of this moment. -/
inductive Publishes (w : Workplace) : Activity → String → List Item → Prop
  | land {id : String} {m : Member} {items : List Item}
      (hm : OrderedMap.get? id w.members = some m) (hpending : m.session.rescan = .pending)
      (hsound : m.breakdown = none)
      (hlist : scannedList w.client.desk m.session.kind m.session.root = .ok items) :
      Publishes w (.session (.land id)) m.session.key items
  | background {index : Nat} {s : Session} {items : List Item}
      (hs : w.client.background[index]? = some s) (hpending : s.rescan = .pending)
      (hlist : scannedList w.client.desk s.kind s.root = .ok items) :
      Publishes w (.landBackground index) s.key items
  | search {q : SearchTerms} {refresh : Bool} {root : String} {items : List Item}
      (hroot : rootOf w.client.desk.files q.root = .ok root) (hcold : Cold w.client q root refresh)
      (hlist : scannedList w.client.desk q.kind root = .ok items) :
      Publishes w (.search q refresh) (Cache.key q.kind root) items
  | searchStale {q : SearchTerms} {waitFresh : Bool} {root : String} {items : List Item}
      (hroot : rootOf w.client.desk.files q.root = .ok root)
      (hawaits : Awaits w.client q root waitFresh)
      (hlist : scannedList w.client.desk q.kind root = .ok items) :
      Publishes w (.searchStale q waitFresh) (Cache.key q.kind root) items

/-- An activity drops the list of a key, alone or with all others. -/
inductive Drops : Activity → String → Prop
  | one (key : String) : Drops (.session (.invalidate (some key))) key
  | all (key : String) : Drops (.session (.invalidate none)) key

section Sessions

variable {p : SessionPool} {id : String} {m : Member}

theorem cache_start (s : Session) (d : Desk) : (s.start.run.run d).2.cache = d.cache := by
  by_cases hs : s.phase = .empty
  · cases hlookup : OrderedMap.get? s.key d.cache.current with
    | none => rw [start_uncached hs hlookup]
    | some items =>
        rw [start_cached_eq hs hlookup]
        split <;> rfl
  · rw [start_again hs]

theorem cache_act {action : Action Session} (h : ∀ d, (action.run.run d).2.cache = d.cache)
    (p : SessionPool) (id : String) (m : Member) :
    (p.act id m action).2.desk.cache = p.desk.cache := by
  have hcache := h p.desk
  unfold SessionPool.act
  rcases hrun : action.run.run p.desk with ⟨result, d⟩
  rw [hrun] at hcache
  cases result with
  | error reason => exact hcache
  | ok s => exact hcache

theorem cache_record (file : String) (symbol : Option String) (d : Desk) :
    ((Desk.record file symbol).run.run d).2.cache = d.cache := by
  rw [record_run]
  rfl

theorem cache_accept (p : SessionPool) (m : Member) (index : Int) :
    (p.accept m index).2.desk.cache = p.desk.cache := by
  unfold SessionPool.accept
  split
  · rfl
  · rename_i item _
    have hcache := cache_record item.path (some item.symbol) p.desk
    split <;> rename_i hrun <;> rw [Session.accept] at hrun <;> rw [hrun] at hcache <;> exact hcache

theorem cache_step_of_ne {event : SessionEvent} (hland : ∀ id, event ≠ .land id)
    (hinvalidate : ∀ which, event ≠ .invalidate which) :
    (p.step event).2.desk.cache = p.desk.cache := by
  cases event with
  | create id kind root announces breakdown => rfl
  | openSession id =>
      simp only [SessionPool.step]
      cases p.member id with
      | error e => rfl
      | ok m => exact cache_act (cache_start _) ..
  | filter id value =>
      simp only [SessionPool.step]
      cases p.member id with
      | error e => rfl
      | ok m =>
          simp only
          cases m.session.setFilter value with
          | error reason => rfl
          | ok s =>
              refine cache_act ?_ (p.put id m s) id m
              intro d
              rw [applyFilter_run]
  | close id =>
      simp only [SessionPool.step]
      cases p.member id <;> rfl
  | land id => exact absurd rfl (hland id)
  | accept id index =>
      simp only [SessionPool.step]
      cases p.member id with
      | error e => rfl
      | ok m =>
          have hcache := cache_accept p m index
          simp only
          split <;> rename_i haccept <;> rw [haccept] at hcache <;> exact hcache
  | invalidate which => exact absurd rfl (hinvalidate which)
  | record file symbol =>
      have hcache := cache_record file symbol p.desk
      simp only [SessionPool.step]
      split <;> rename_i hrun <;> rw [hrun] at hcache <;> exact hcache
  | setClock now => rfl

theorem cache_step_land_unknown (hm : OrderedMap.get? id p.members = none) :
    (p.step (.land id)).2.desk.cache = p.desk.cache := by
  rw [step_unknown hm rfl (by simp [Creates])]

theorem cache_step_land (hm : OrderedMap.get? id p.members = some m) :
    (p.step (.land id)).2.desk.cache =
      match broughtBy p.desk m with
      | some fresh => p.desk.cache.modify (OrderedMap.insert m.session.key fresh)
      | none => p.desk.cache := by
  obtain ⟨s', d', hrun, hcases⟩ := member_land_cases p.desk m
  have hdesk : (p.step (.land id)).2.desk = d' := by
    simp only [SessionPool.step, member_eq hm, SessionPool.land, hrun]
    cases s'.failure? <;> rfl
  rw [hdesk]
  rcases hcases with ⟨fresh, hfresh, -, hcache⟩ | ⟨hnone, hcache, -⟩
  · rw [hfresh, hcache]
  · rw [hnone, hcache]

end Sessions

section Searches

variable {c : Client} {q : SearchTerms} {root : String} {items : List Item}

/-- A search that scans answers from its list, and caches it whether or not it can be ranked. -/
theorem search_cold_run {refresh : Bool} (hroot : rootOf c.desk.files q.root = .ok root)
    (hcold : Cold c q root refresh) :
    ∃ d, (Client.search q refresh).run.run c =
        ((scannedList c.desk q.kind root).bind fun items => answer c.desk.config items q,
          ⟨d, c.background⟩) ∧
      d.cache =
        match scannedList c.desk q.kind root with
        | .ok items => c.desk.cache.modify (OrderedMap.insert (Cache.key q.kind root) items)
        | .error _ => c.desk.cache := by
  rw [search_eq_scanThenAnswer hroot hcold, scanThenAnswer]
  rcases scan_cases q.kind root c.desk with
    ⟨failure, hextract, hfailed⟩ | ⟨occurrences, d₁, d₂, hextract, hbuild, hcache, hconfig⟩
  · rw [run_bind_error (atDesk_run hextract), hfailed]
    exact ⟨c.desk, rfl, rfl⟩
  · have hbuilt := @atDesk_run _ _ ⟨d₁, c.background⟩ _ _ hbuild
    rw [run_bind_ok (atDesk_run hextract)]
    cases hlist : scannedList c.desk q.kind root with
    | error failure =>
        rw [hlist] at hbuilt
        rw [run_bind_error hbuilt]
        exact ⟨d₂, rfl, hcache⟩
    | ok items =>
        rw [hlist] at hbuilt
        have hkept : (Client.atDesk (Desk.keep (Cache.key q.kind root) items)).run.run
            ⟨d₂, c.background⟩ = (.ok (), ⟨{ d₂ with
              cache := d₂.cache.modify (OrderedMap.insert (Cache.key q.kind root) items) },
              c.background⟩) := atDesk_run rfl
        rw [run_bind_ok hbuilt, ← hcache, ← hconfig]
        exact ⟨_, (run_bind_ok hkept).trans (answer_run items q _), rfl⟩

theorem cache_search_cold {refresh : Bool} (hroot : rootOf c.desk.files q.root = .ok root)
    (hcold : Cold c q root refresh) :
    ((Client.search q refresh).run.run c).2.desk.cache =
      match scannedList c.desk q.kind root with
      | .ok items => c.desk.cache.modify (OrderedMap.insert (Cache.key q.kind root) items)
      | .error _ => c.desk.cache := by
  obtain ⟨d, hrun, hcache⟩ := search_cold_run hroot hcold
  rw [hrun, hcache]

theorem search_warm_run (hroot : rootOf c.desk.files q.root = .ok root)
    (hcached : OrderedMap.get? (Cache.key q.kind root) c.desk.cache.current = some items) :
    ∃ d, (Client.search q false).run.run c =
        (match c.desk.tracker.load c.desk.config c.desk.store with
          | .error failure => .error failure
          | .ok (t, _) =>
              (Ranking.rescore t c.desk.config c.desk.now items).bind fun scored =>
                answer c.desk.config scored q,
          ⟨d, c.background⟩) ∧
      d.cache = c.desk.cache := by
  rw [Client.search, run_bind_ok (resolveRoot_run hroot)]
  simp only [Bool.false_eq_true, if_false]
  rw [run_bind_ok (cached_run _ c), hcached]
  simp only
  have hrescore := rescore_run_eq items c.desk
  cases hload : c.desk.tracker.load c.desk.config c.desk.store with
  | error failure =>
      rw [hload] at hrescore
      rw [run_bind_error (atDesk_run hrescore)]
      exact ⟨c.desk, rfl, rfl⟩
  | ok loaded =>
      obtain ⟨t, notices⟩ := loaded
      simp only [hload] at hrescore ⊢
      cases hscored : Ranking.rescore t c.desk.config c.desk.now items with
      | error failure =>
          rw [hscored] at hrescore
          rw [run_bind_error (atDesk_run hrescore)]
          exact ⟨_, rfl, rfl⟩
      | ok scored =>
          rw [hscored] at hrescore
          rw [run_bind_ok (atDesk_run hrescore), answer_run]
          exact ⟨_, rfl, rfl⟩

theorem cache_search_warm (hroot : rootOf c.desk.files q.root = .ok root)
    (hcached : OrderedMap.get? (Cache.key q.kind root) c.desk.cache.current = some items) :
    ((Client.search q false).run.run c).2.desk.cache = c.desk.cache := by
  obtain ⟨d, hrun, hcache⟩ := search_warm_run hroot hcached
  rw [hrun, hcache]

theorem client_await_answerFrom (q : SearchTerms) (s : Session) (c : Client) :
    ((Client.await s >>= answerFrom q).run.run c).2 =
      { c with desk := (s.land.run c.desk).2 } := by
  rcases hland : s.land.run c.desk with ⟨s', d⟩
  cases hfailure : s'.failure? with
  | none => rw [run_bind_ok (await_run hland hfailure), client_answerFrom]
  | some reason => rw [run_bind_error (await_run_error hland hfailure)]

theorem scannedList_tracked {d : Desk} (h : Readable d) (kind : Json) (root : String) :
    scannedList (tracked d) kind root = scannedList d kind root := by
  obtain ⟨⟨t, notices⟩, hload⟩ := h
  have ht : trackerOf d = t := by rw [trackerOf, hload]
  have hagain := load_trackerOf ⟨_, hload⟩
  unfold scannedList
  change (do
    let scan ← d.extractor.extract d.tool kind root
    let loaded ← (trackerOf d).load d.config d.store
    Ranking.build loaded.1 d.config d.now root scan.occurrences) = _
  rw [hagain, hload, ht]
  rfl

theorem cache_land_opened {s : Session} {d : Desk} (hs : s.rescan = .pending) :
    (s.land.run d).2.cache =
      match scannedList d s.kind s.root with
      | .ok items => d.cache.modify (OrderedMap.insert s.key items)
      | .error _ => d.cache := by
  cases hlist : scannedList d s.kind s.root with
  | ok items =>
      obtain ⟨d', hland, hcache⟩ := land_of_scannedList hs hlist
      rw [hland]
      exact hcache
  | error failure =>
      obtain ⟨s', d', hland, hcache, -⟩ := land_of_no_scannedList hs hlist
      rw [hland]
      exact hcache

theorem cache_searchStale_awaits {waitFresh : Bool}
    (hroot : rootOf c.desk.files q.root = .ok root) (hawaits : Awaits c q root waitFresh) :
    ((Client.searchStale q waitFresh).run.run c).2.desk.cache =
      match scannedList c.desk q.kind root with
      | .ok items => c.desk.cache.modify (OrderedMap.insert (Cache.key q.kind root) items)
      | .error _ => c.desk.cache := by
  cases hlookup : OrderedMap.get? (Cache.key q.kind root) c.desk.cache.current with
  | none =>
      have hstart := start_uncached (s := Session.new q.kind root) rfl hlookup
      rw [searchStale_wait waitFresh hroot hstart (Bool.or_true waitFresh), client_await_answerFrom,
        cache_land_opened rfl]
      rfl
  | some items =>
      obtain ⟨rfl, hscores⟩ := hawaits items hlookup
      have hstart := start_cached (s := Session.new q.kind root) rfl hlookup hscores
      rw [searchStale_wait true hroot hstart rfl, client_await_answerFrom, cache_land_opened rfl,
        ← scannedList_tracked hscores.readable]
      rfl

theorem awaits_of_start {waitFresh : Bool} {s : Session} {d : Desk}
    (hstart : (Session.new q.kind root).start.run.run c.desk = (.ok s, d))
    (hwait : (waitFresh || s.phase == .loading) = true) : Awaits c q root waitFresh := by
  intro items hlookup
  rw [start_cached_eq (s := Session.new q.kind root) rfl hlookup] at hstart
  cases hload : c.desk.tracker.load c.desk.config c.desk.store with
  | error failure =>
      rw [hload] at hstart
      cases hstart
  | ok loaded =>
      obtain ⟨t, notices⟩ := loaded
      have ht : trackerOf c.desk = t := by rw [trackerOf, hload]
      simp only [hload] at hstart
      cases hscored : Ranking.rescore t c.desk.config c.desk.now items with
      | error failure =>
          rw [hscored] at hstart
          cases hstart
      | ok base =>
          rw [hscored] at hstart
          obtain rfl := Except.ok.inj (congrArg Prod.fst hstart)
          refine ⟨by simpa [opened] using hwait, ⟨_, hload⟩, base, ?_⟩
          rw [ht]
          exact hscored

theorem searchStale_no_start {waitFresh : Bool} {failure : Failure} {d : Desk}
    (hroot : rootOf c.desk.files q.root = .ok root)
    (hstart : (Session.new q.kind root).start.run.run c.desk = (.error failure, d)) :
    (Client.searchStale q waitFresh).run.run c = (.error failure, { c with desk := d }) := by
  rw [Client.searchStale, run_bind_ok (resolveRoot_run hroot)]
  exact run_bind_error (atDesk_run hstart)

theorem cache_searchStale_not_awaits {waitFresh : Bool}
    (hroot : rootOf c.desk.files q.root = .ok root) (hawaits : ¬Awaits c q root waitFresh) :
    ((Client.searchStale q waitFresh).run.run c).2.desk.cache = c.desk.cache := by
  have hcache := cache_start (Session.new q.kind root) c.desk
  rcases hstart : (Session.new q.kind root).start.run.run c.desk with ⟨result, d⟩
  rw [hstart] at hcache
  cases result with
  | error failure =>
      rw [searchStale_no_start hroot hstart]
      exact hcache
  | ok s =>
      cases hwait : waitFresh || s.phase == .loading with
      | false =>
          rw [searchStale_go waitFresh hroot hstart hwait, client_answerFrom]
          exact hcache
      | true => exact absurd (awaits_of_start hstart hwait) hawaits

end Searches

variable {w : Workplace} {a : Activity} {key : String} {items : List Item}

/-- A list that is brought is cached as it is, under its key. -/
theorem cache_step_of_publishes (h : Publishes w a key items) :
    (w.step a).client.desk.cache =
      w.client.desk.cache.modify (OrderedMap.insert key items) := by
  cases h with
  | land hm hpending hsound hlist =>
      have hbrought := broughtBy_eq_some_iff.mpr ⟨hpending, hsound, hlist⟩
      refine (cache_step_land (p := w.pool) hm).trans ?_
      rw [show broughtBy w.pool.desk _ = _ from hbrought]
      rfl
  | background hs hpending hlist =>
      simp only [Workplace.step, hs]
      rw [cache_land_opened hpending, hlist]
  | search hroot hcold hlist =>
      refine (cache_search_cold hroot hcold).trans ?_
      rw [hlist]
  | searchStale hroot hawaits hlist =>
      refine (cache_searchStale_awaits hroot hawaits).trans ?_
      rw [hlist]

theorem cache_step_cases (w : Workplace) (a : Activity) :
    (∃ key items, Publishes w a key items) ∨ (∃ which, a = .session (.invalidate which)) ∨
      (w.step a).client.desk.cache = w.client.desk.cache := by
  cases a with
  | session event =>
      by_cases hland : ∃ id, event = .land id
      · obtain ⟨id, rfl⟩ := hland
        cases hm : OrderedMap.get? id w.members with
        | none => exact .inr (.inr (cache_step_land_unknown (p := w.pool) hm))
        | some m =>
            have hcache := cache_step_land (p := w.pool) hm
            cases hbrought : broughtBy w.pool.desk m with
            | none =>
                rw [hbrought] at hcache
                exact .inr (.inr hcache)
            | some fresh =>
                obtain ⟨hpending, hsound, hlist⟩ := broughtBy_eq_some_iff.mp hbrought
                exact .inl ⟨_, _, .land hm hpending hsound hlist⟩
      · by_cases hinvalidate : ∃ which, event = .invalidate which
        · obtain ⟨which, rfl⟩ := hinvalidate
          exact .inr (.inl ⟨which, rfl⟩)
        · refine .inr (.inr (cache_step_of_ne (p := w.pool) ?_ ?_))
          · rintro id rfl
            exact hland ⟨id, rfl⟩
          · rintro which rfl
            exact hinvalidate ⟨which, rfl⟩
  | search q refresh =>
      cases hroot : rootOf w.client.desk.files q.root with
      | error failure =>
          refine .inr (.inr ?_)
          simp only [Workplace.step, search_no_root hroot]
      | ok root =>
          rcases cold_or_cached w.client q root refresh with hcold | ⟨rfl, items, hitems⟩
          · have hcache := cache_search_cold hroot hcold
            cases hlist : scannedList w.client.desk q.kind root with
            | ok items => exact .inl ⟨_, _, .search hroot hcold hlist⟩
            | error failure =>
                rw [hlist] at hcache
                exact .inr (.inr hcache)
          · exact .inr (.inr (cache_search_warm hroot hitems))
  | searchStale q waitFresh =>
      cases hroot : rootOf w.client.desk.files q.root with
      | error failure =>
          refine .inr (.inr ?_)
          simp only [Workplace.step, searchStale_no_root hroot]
      | ok root =>
          by_cases hawaits : Awaits w.client q root waitFresh
          · have hcache := cache_searchStale_awaits hroot hawaits
            cases hlist : scannedList w.client.desk q.kind root with
            | ok items => exact .inl ⟨_, _, .searchStale hroot hawaits hlist⟩
            | error failure =>
                rw [hlist] at hcache
                exact .inr (.inr hcache)
          · exact .inr (.inr (cache_searchStale_not_awaits hroot hawaits))
  | landBackground index =>
      cases hs : w.client.background[index]? with
      | none =>
          refine .inr (.inr ?_)
          simp only [Workplace.step, hs]
      | some s =>
          have hstep : (w.step (.landBackground index)).client.desk =
              (s.land.run w.client.desk).2 := by
            simp only [Workplace.step, hs]
          by_cases hpending : s.rescan = .pending
          · have hcache := cache_land_opened (d := w.client.desk) hpending
            cases hlist : scannedList w.client.desk s.kind s.root with
            | ok items => exact .inl ⟨_, _, .background hs hpending hlist⟩
            | error failure =>
                rw [hlist] at hcache
                exact .inr (.inr (by rw [hstep, hcache]))
          · refine .inr (.inr ?_)
            rw [hstep, Session.land, landWith_idle hpending]
  | clearRecency => exact .inr (.inr rfl)
  | setWorld tool files catalog => exact .inr (.inr rfl)

theorem entry_step_of_publishes (h : Publishes w a key items) (other : String) :
    (w.step a).entry other = if key = other then some items else w.entry other := by
  rw [Workplace.entry, cache_step_of_publishes h, current_modify, OrderedMap.get?_insert]
  rfl

theorem entry_step_of_drops (h : Drops a key) : (w.step a).entry key = none := by
  cases h with
  | one =>
      change OrderedMap.get? key
        (w.client.desk.cache.modify (Cache.invalidate (some key))).current = none
      rw [current_modify, Cache.invalidate, OrderedMap.get?_erase, if_pos rfl]
  | all =>
      change OrderedMap.get? key (w.client.desk.cache.modify (Cache.invalidate none)).current = none
      rw [current_modify, Cache.invalidate]
      rfl

/-- An activity brings a list for a key, or drops the list of the key. -/
def Touches (w : Workplace) (a : Activity) (key : String) : Prop :=
  (∃ items, Publishes w a key items) ∨ Drops a key

theorem entry_step_of_not_touches (h : ¬Touches w a key) : (w.step a).entry key = w.entry key := by
  obtain ⟨hpublishes, hdrops⟩ := not_or.mp h
  rcases cache_step_cases w a with ⟨other, items, hother⟩ | ⟨which, rfl⟩ | hcache
  · rw [entry_step_of_publishes hother, if_neg]
    rintro rfl
    exact hpublishes ⟨items, hother⟩
  · cases which with
    | none => exact absurd (.all key) hdrops
    | some other =>
        change OrderedMap.get? key
          (w.client.desk.cache.modify (Cache.invalidate (some other))).current = _
        rw [current_modify, Cache.invalidate, OrderedMap.get?_erase, if_neg]
        · rfl
        · rintro rfl
          exact hdrops (.one other)
  · rw [Workplace.entry, hcache]
    rfl

/-- Nothing in a run touches the list of a key. -/
def Untouched (w : Workplace) (activities : List Activity) (key : String) : Prop :=
  ∀ earlier a later, activities = earlier ++ a :: later → ¬Touches (w.run earlier) a key

variable {activities : List Activity}

theorem run_snoc (w : Workplace) (activities : List Activity) (a : Activity) :
    w.run (activities ++ [a]) = (w.run activities).step a :=
  List.foldl_append ..

theorem run_append (w : Workplace) (xs ys : List Activity) :
    w.run (xs ++ ys) = (w.run xs).run ys :=
  List.foldl_append ..

theorem untouched_nil (w : Workplace) (key : String) : Untouched w [] key := by
  intro earlier a later hsplit
  simp at hsplit

theorem Untouched.snoc (h : Untouched w activities key)
    (ha : ¬Touches (w.run activities) a key) : Untouched w (activities ++ [a]) key := by
  intro earlier b later hsplit
  rcases List.eq_nil_or_concat later with rfl | ⟨later, last, rfl⟩
  · obtain ⟨rfl, hlast⟩ := List.append_inj' hsplit rfl
    obtain rfl := (List.cons.inj hlast).1
    exact ha
  · rw [List.concat_eq_append, ← List.cons_append, ← List.append_assoc] at hsplit
    exact h earlier b later (List.append_inj' hsplit rfl).1

/-- What a run last did to the list of a key, and what it left there. -/
inductive Traced (w : Workplace) (activities : List Activity) (key : String) :
    Option (List Item) → Prop
  | initial (h : Untouched w activities key) : Traced w activities key (w.entry key)
  | published {earlier later : List Activity} {a : Activity} {items : List Item}
      (hsplit : activities = earlier ++ a :: later) (h : Publishes (w.run earlier) a key items)
      (hlater : Untouched (w.run (earlier ++ [a])) later key) :
      Traced w activities key (some items)
  | dropped {earlier later : List Activity} {a : Activity}
      (hsplit : activities = earlier ++ a :: later) (h : Drops a key)
      (hlater : Untouched (w.run (earlier ++ [a])) later key) : Traced w activities key none

theorem Traced.snoc {found : Option (List Item)} (h : Traced w activities key found)
    (ha : ¬Touches (w.run activities) a key) : Traced w (activities ++ [a]) key found := by
  cases h with
  | initial h => exact .initial (h.snoc ha)
  | published hsplit h hlater =>
      subst hsplit
      refine .published (List.append_assoc ..) h (hlater.snoc ?_)
      rwa [← run_append, List.append_assoc]
  | dropped hsplit h hlater =>
      subst hsplit
      refine .dropped (List.append_assoc ..) h (hlater.snoc ?_)
      rwa [← run_append, List.append_assoc]

/-- What is cached under a key is what the last activity that touched it left there. -/
theorem traced_entry (w : Workplace) (activities : List Activity) (key : String) :
    Traced w activities key ((w.run activities).entry key) := by
  induction activities using List.reverseRecOn with
  | nil => exact .initial (untouched_nil w key)
  | append_singleton activities a ih =>
      rw [run_snoc]
      by_cases htouches : Touches (w.run activities) a key
      · rcases htouches with ⟨items, hitems⟩ | hdrops
        · rw [entry_step_of_publishes hitems, if_pos rfl]
          exact .published rfl hitems (untouched_nil _ key)
        · rw [entry_step_of_drops hdrops]
          exact .dropped rfl hdrops (untouched_nil _ key)
      · rw [entry_step_of_not_touches htouches]
        exact ih.snoc htouches

/-- What leaves the cache alone: filters, accepts and closings, searches that are served from it,
and rescans whose extraction fails. -/
inductive Quiet (w : Workplace) : Activity → Prop
  | filter (id : String) (value : Json) : Quiet w (.session (.filter id value))
  | accept (id : String) (index : Int) : Quiet w (.session (.accept id index))
  | close (id : String) : Quiet w (.session (.close id))
  | served {q : SearchTerms} {root : String} {items : List Item}
      (hroot : rootOf w.client.desk.files q.root = .ok root)
      (hcached : w.entry (Cache.key q.kind root) = some items) : Quiet w (.search q false)
  | servedStale {q : SearchTerms} {root : String} {items : List Item}
      (hroot : rootOf w.client.desk.files q.root = .ok root)
      (hcached : w.entry (Cache.key q.kind root) = some items) : Quiet w (.searchStale q false)
  | failed {id : String} {m : Member} {failure : Failure}
      (hm : OrderedMap.get? id w.members = some m)
      (hfailed : ((SessionPool.extraction m).run.run w.client.desk).1 = .error failure) :
      Quiet w (.session (.land id))

theorem Quiet.not_touches (h : Quiet w a) (key : String) : ¬Touches w a key := by
  rintro (⟨items, hpublishes⟩ | hdrops)
  · cases h with
    | filter id value => cases hpublishes
    | accept id index => cases hpublishes
    | close id => cases hpublishes
    | served hroot hcached =>
        cases hpublishes with
        | search hroot' hcold hlist =>
            obtain rfl := Except.ok.inj (hroot.symm.trans hroot')
            rcases hcold with hrefresh | hmiss
            · cases hrefresh
            · cases hcached.symm.trans hmiss
    | servedStale hroot hcached =>
        cases hpublishes with
        | searchStale hroot' hawaits hlist =>
            obtain rfl := Except.ok.inj (hroot.symm.trans hroot')
            cases (hawaits _ hcached).1
    | failed hm hfailed =>
        cases hpublishes with
        | land hm' hpending hsound hlist =>
            obtain rfl := Option.some.inj (hm.symm.trans hm')
            rcases scan_cases _ _ w.client.desk with
              ⟨failure, -, hnone⟩ | ⟨occurrences, d₁, d₂, hextract, -⟩
            · cases hlist.symm.trans hnone
            · rw [SessionPool.extraction, hsound, hextract] at hfailed
              cases hfailed
  · cases h <;> cases hdrops

/-- A list that is brought holds all that a scan of the moment finds, with the recency scores of the
moment and in their order. -/
theorem Publishes.whole (h : Publishes w a key items) :
    ∃ kind root scan, key = Cache.key kind root ∧
      w.client.desk.extractor.extract w.client.desk.tool kind root = .ok scan ∧
      items = freshAt w.client.desk (itemsOf root scan.occurrences) := by
  have hwhole {kind : Json} {root : String}
      (hlist : scannedList w.client.desk kind root = .ok items) :
      ∃ kind' root' scan, Cache.key kind root = Cache.key kind' root' ∧
        w.client.desk.extractor.extract w.client.desk.tool kind' root' = .ok scan ∧
        items = freshAt w.client.desk (itemsOf root' scan.occurrences) := by
    obtain ⟨scan, hscan, hitems⟩ := scannedList_eq_freshAt hlist
    exact ⟨kind, root, scan, rfl, hscan, hitems⟩
  cases h with
  | land hm hpending hsound hlist => exact hwhole hlist
  | background hs hpending hlist => exact hwhole hlist
  | search hroot hcold hlist => exact hwhole hlist
  | searchStale hroot hawaits hlist => exact hwhole hlist

/-- The history of what is cached under a key, over any run of sessions and searches at one
workplace. It is the list that the last rescan or scanning search with this key brought, whole and
with the recency scores of that moment; or the list from before the run; or nothing, once dropped.
Filters, accepts, closings, searches served from the cache, failed rescans and whatever goes on
under other keys leave it as it is. -/
theorem cache_entry_history (w : Workplace) (activities : List Activity) (key : String) :
    Traced w activities key ((w.run activities).entry key) ∧
      (∀ a other items, Publishes (w.run activities) a other items →
        ∃ kind root scan, other = Cache.key kind root ∧
          (w.run activities).client.desk.extractor.extract (w.run activities).client.desk.tool kind
            root = .ok scan ∧
          items = freshAt (w.run activities).client.desk (itemsOf root scan.occurrences)) ∧
      (∀ a, Quiet (w.run activities) a ∨
          (∃ other items, other ≠ key ∧ Publishes (w.run activities) a other items) ∨
          (∃ other, other ≠ key ∧ a = .session (.invalidate (some other))) →
        (w.run (activities ++ [a])).entry key = (w.run activities).entry key) := by
  refine ⟨traced_entry w activities key, fun a other items h => h.whole, ?_⟩
  intro a ha
  rw [run_snoc]
  rcases ha with hquiet | ⟨other, items, hne, hother⟩ | ⟨other, hne, rfl⟩
  · exact entry_step_of_not_touches (hquiet.not_touches key)
  · rw [entry_step_of_publishes hother, if_neg hne]
  · apply entry_step_of_not_touches
    rintro (⟨items, hitems⟩ | hdrops)
    · cases hitems
    · cases hdrops
      exact hne rfl

section Sample

/-- A workplace without sessions, where one class is to be found. -/
def sampleWorkplace : Workplace :=
  ⟨sampleClient "a.js:1:1:class A\n", []⟩

/-- A session is opened, filtered and closed, and its rescan lands after all. -/
def sampleActivities : List Activity :=
  [.session (.create "s" (.string "all") "/" true none), .session (.openSession "s"),
    .session (.filter "s" (.string "a")), .session (.close "s"), .session (.land "s"),
    .search (sampleTerms "z") false]

/-- The list of the closed session stays in the cache. -/
theorem cache_entry_history_sample :
    ∃ items, (sampleWorkplace.run sampleActivities).entry "all::/" = some items ∧
      items.length = 1 ∧ Traced sampleWorkplace sampleActivities "all::/" (some items) := by
  have hlength : ((sampleWorkplace.run sampleActivities).entry "all::/").map List.length =
      some 1 := by
    decide +kernel
  obtain ⟨items, hitems, hone⟩ := Option.map_eq_some_iff.mp hlength
  have htraced := (cache_entry_history sampleWorkplace sampleActivities "all::/").1
  rw [hitems] at htraced
  exact ⟨items, hitems, hone, htraced⟩

end Sample

end SymbolSearch.Proofs.CacheHistory
